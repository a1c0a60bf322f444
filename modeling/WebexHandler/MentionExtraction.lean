import WebexHandler.MentionAgreement

open regex

namespace webex

namespace Mention

def person? : Mention → Option String
  | .person id => some id
  | .group _ => none

def group? : Mention → Option String
  | .person _ => none
  | .group group_type => some group_type

end Mention

/-- The ids of the persons among some mentions. -/
def person_ids (mentions : List Mention) : List String := mentions.filterMap Mention.person?

/-- The types of the groups among some mentions. -/
def group_types (mentions : List Mention) : List String := mentions.filterMap Mention.group?

namespace rust

/-- The mentions in the matches of `MENTION_RE`, in order. An empty id or type is none. -/
def found_mentions (html : String) : List Mention :=
  (find_all simple_fold MENTION_RE 0 html.toList).filterMap fun cap => mention simple_fold (cap.group 1) cap.text

/-- Each list has the values of its own kind, without repetitions and in the order in
    which they first occur. -/
structure Extracts (html : String) (found : ParsedMentions) : Prop where
  people : found.mentioned_people = (person_ids (found_mentions html)).eraseDups
  groups : found.mentioned_groups = (group_types (found_mentions html)).eraseDups

end rust

/-- No person has the id under which the type of a group is remembered. -/
def apart (mentions : List Mention) : Bool :=
  (group_types mentions).all fun group_type => !(person_ids mentions).contains ("group:" ++ group_type)

section loop

/-- What the loop has collected from some mentions. -/
def noted (mentions : List Mention) : Collected := mentions.foldl (fun state found => state.note (some found)) {}

theorem noted_append (mentions : List Mention) (found : Mention) :
    noted (mentions ++ [found]) = (noted mentions).note (some found) := by
  rw [noted, List.foldl_append]
  rfl

theorem apart_iff {mentions : List Mention} : apart mentions = true ↔
    ∀ group_type ∈ group_types mentions, "group:" ++ group_type ∉ person_ids mentions := by
  simp [apart]

theorem person_ids_append (mentions : List Mention) (found : Mention) :
    person_ids (mentions ++ [found]) = person_ids mentions ++ found.person?.toList := by
  cases found <;> simp [person_ids, Mention.person?]

theorem group_types_append (mentions : List Mention) (found : Mention) :
    group_types (mentions ++ [found]) = group_types mentions ++ found.group?.toList := by
  cases found <;> simp [group_types, Mention.group?]

theorem apart_of_append {mentions : List Mention} {found : Mention} (happart : apart (mentions ++ [found]) = true) :
    apart mentions = true := by
  rw [apart_iff, person_ids_append, group_types_append] at happart
  rw [apart_iff]
  intro group_type htype hid
  exact happart group_type (List.mem_append_left _ htype) (List.mem_append_left _ hid)

theorem eraseDups_concat_of_mem {values : List String} {value : String} (hmem : value ∈ values) :
    (values ++ [value]).eraseDups = values.eraseDups := by
  simp [List.eraseDups_append, List.removeAll, hmem]

theorem eraseDups_concat_of_not_mem {values : List String} {value : String} (hmem : value ∉ values) :
    (values ++ [value]).eraseDups = values.eraseDups ++ [value] := by
  simp [List.eraseDups_append, List.removeAll, hmem, List.eraseDups_cons]

/-- The set of the loop has the ids of the persons and the marked types of the groups
    that are in the lists, and never one key for both. -/
structure Remembers (state : Collected) : Prop where
  seen : ∀ key, key ∈ state.seen ↔
    key ∈ state.result.mentioned_people ∨ ∃ group_type ∈ state.result.mentioned_groups, "group:" ++ group_type = key
  once : ∀ group_type ∈ state.result.mentioned_groups, "group:" ++ group_type ∉ state.result.mentioned_people

theorem remembers_noted (mentions : List Mention) : Remembers (noted mentions) := by
  induction mentions using List.reverseRecOn with
  | nil => exact ⟨by simp [noted], by simp [noted]⟩
  | append_singleton mentions found ih =>
    rw [noted_append]
    generalize noted mentions = state at ih ⊢
    cases found with
    | person id =>
      by_cases hseen : id ∈ state.seen
      · simpa only [Collected.note, if_pos hseen] using ih
      · have hnew := hseen
        rw [ih.seen, not_or, not_exists] at hnew
        simp only [Collected.note, if_neg hseen]
        refine ⟨?_, ?_⟩
        · intro key
          simp only [List.mem_cons, List.mem_append, List.not_mem_nil, or_false, ih.seen]
          tauto
        · intro group_type htype hmem
          simp only [List.mem_append, List.mem_cons, List.not_mem_nil, or_false] at hmem
          obtain hmem | hsame := hmem
          · exact ih.once group_type htype hmem
          · exact hnew.2 group_type ⟨htype, hsame⟩
    | group group_type =>
      by_cases hseen : "group:" ++ group_type ∈ state.seen
      · simpa only [Collected.note, if_pos hseen] using ih
      · have hnew := hseen
        rw [ih.seen, not_or] at hnew
        simp only [Collected.note, if_neg hseen]
        refine ⟨?_, ?_⟩
        · intro key
          simp only [List.mem_cons, List.mem_append, List.not_mem_nil, or_false, ih.seen]
          constructor
          · rintro (rfl | hpeople | ⟨other, hother, rfl⟩)
            · exact .inr ⟨group_type, .inr rfl, rfl⟩
            · exact .inl hpeople
            · exact .inr ⟨other, .inl hother, rfl⟩
          · rintro (hpeople | ⟨other, hother | rfl, rfl⟩)
            · exact .inr (.inl hpeople)
            · exact .inr (.inr ⟨other, hother, rfl⟩)
            · exact .inl rfl
        · intro other hother hmem
          simp only [List.mem_append, List.mem_cons, List.not_mem_nil, or_false] at hother
          obtain hother | rfl := hother
          · exact ih.once other hother hmem
          · exact hnew.1 hmem

/-- Where no key stands for both kinds, the loop removes the repetitions of each. -/
theorem noted_of_apart {mentions : List Mention} (happart : apart mentions = true) :
    (noted mentions).result.mentioned_people = (person_ids mentions).eraseDups ∧
      (noted mentions).result.mentioned_groups = (group_types mentions).eraseDups := by
  induction mentions using List.reverseRecOn with
  | nil => exact ⟨rfl, rfl⟩
  | append_singleton mentions found ih =>
    obtain ⟨hpeople, hgroups⟩ := ih (apart_of_append happart)
    have hseen := (remembers_noted mentions).seen
    rw [hpeople, hgroups] at hseen
    simp only [List.mem_eraseDups] at hseen
    rw [apart_iff, person_ids_append, group_types_append] at happart
    rw [noted_append, person_ids_append, group_types_append]
    cases found with
    | person id =>
      simp only [Mention.person?, Mention.group?, Option.toList_some, Option.toList_none, List.append_nil] at happart ⊢
      have hid : id ∈ (noted mentions).seen ↔ id ∈ person_ids mentions := by
        rw [hseen]
        refine or_iff_left ?_
        rintro ⟨group_type, htype, rfl⟩
        exact happart group_type htype (by simp)
      by_cases hmem : id ∈ person_ids mentions
      · simp only [Collected.note, if_pos (hid.mpr hmem), eraseDups_concat_of_mem hmem]
        exact ⟨hpeople, hgroups⟩
      · simp only [Collected.note, if_neg (mt hid.mp hmem), eraseDups_concat_of_not_mem hmem, hpeople]
        exact ⟨trivial, hgroups⟩
    | group group_type =>
      simp only [Mention.person?, Mention.group?, Option.toList_some, Option.toList_none, List.append_nil] at happart ⊢
      have htype : "group:" ++ group_type ∈ (noted mentions).seen ↔ group_type ∈ group_types mentions := by
        rw [hseen]
        constructor
        · rintro (hperson | ⟨other, hother, hsame⟩)
          · exact absurd hperson (happart group_type (by simp))
          · exact (String.append_right_inj _).mp hsame ▸ hother
        · intro hmem
          exact .inr ⟨group_type, hmem, rfl⟩
      by_cases hmem : group_type ∈ group_types mentions
      · simp only [Collected.note, if_pos (htype.mpr hmem), eraseDups_concat_of_mem hmem]
        exact ⟨hpeople, hgroups⟩
      · simp only [Collected.note, if_neg (mt htype.mp hmem), eraseDups_concat_of_not_mem hmem, hgroups]
        exact ⟨hpeople, trivial⟩

end loop

theorem parse_mentions_noted (html : String) : rust.parse_mentions (some html) = (noted (rust.found_mentions html)).result := by
  have hloop : noted (rust.found_mentions html) = (find_all simple_fold rust.MENTION_RE 0 html.toList).foldl single_turn {} := by
    rw [noted, rust.found_mentions, List.foldl_filterMap]
    apply List.foldl_ext
    intro state cap _
    rw [single_turn, collect_eq]
    cases mention simple_fold (cap.group 1) cap.text with
    | none => rfl
    | some found => rfl
  rw [hloop]
  by_cases hhtml : html = ""
  · subst hhtml
    rfl
  · simp only [rust.parse_mentions, if_neg hhtml]

/-- Each list is that of its own kind exactly when the mark of a group is not the id of
    a person of the same text. -/
theorem extracts_mentions_iff (html : String) :
    rust.Extracts html (rust.parse_mentions (some html)) ↔ apart (rust.found_mentions html) = true := by
  rw [parse_mentions_noted]
  constructor
  · intro hextracts
    rw [apart_iff]
    intro group_type htype hid
    refine (remembers_noted (rust.found_mentions html)).once group_type ?_ ?_
    · rw [hextracts.groups]
      exact List.mem_eraseDups.mpr htype
    · rw [hextracts.people]
      exact List.mem_eraseDups.mpr hid
  · intro happart
    obtain ⟨hpeople, hgroups⟩ := noted_of_apart happart
    exact ⟨hpeople, hgroups⟩

/-- A person whose id is the mark of a group keeps the group out. -/
theorem marked_person_hides_group :
    ¬rust.Extracts "<spark-mention data-object-type=\"person\" data-object-id=\"group:all\"><spark-mention data-object-type=\"groupMention\" data-group-type=\"all\">"
      (rust.parse_mentions (some
        "<spark-mention data-object-type=\"person\" data-object-id=\"group:all\"><spark-mention data-object-type=\"groupMention\" data-group-type=\"all\">")) := by
  intro hextracts
  exact absurd hextracts.groups (by decide +kernel)

end webex
