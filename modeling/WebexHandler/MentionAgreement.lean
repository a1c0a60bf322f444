import WebexHandler.MentionParsers
import WebexHandler.Rust.Types

open regex

namespace webex

open node (MENTION_RE OBJECT_TYPE_RE)

def start_literal : List Char := "<spark-mention".toList

def type_literal : List Char := "data-object-type=\"".toList

def id_literal : List Char := "data-object-id=\"".toList

/-- What a tag is read as. -/
inductive Mention
  | person (id : String)
  | group (group_type : String)
  deriving DecidableEq

/-- The mention in a tag with the given object type. -/
def mention (canonical : Char → Char) (object_type tag : List Char) : Option Mention :=
  if object_type = "person".toList then
    (search canonical (attribute_re "data-object-id") tag).bind fun id_match =>
      let id := String.ofList (id_match.group 1)
      if id = "" then none else some (.person id)
  else if object_type = "groupMention".toList then
    (search canonical (attribute_re "data-group-type") tag).bind fun group_match =>
      let group_type := String.ofList (group_match.group 1)
      if group_type = "" then none else some (.group group_type)
  else none

/-- The values of the object-type attributes that are closed in a tag, in order. -/
def object_types (tag : List Char) : List (List Char) :=
  tag.tails.filterMap fun v => (match_at simple_fold OBJECT_TYPE_RE v).map (·.group 1)

/-- The tag ends within the value of an object-type attribute. -/
def left_open (tag : List Char) : Bool :=
  tag.tails.any fun v => (strip simple_fold type_literal v).any fun value => !value.contains '"'

/-- There is a quote behind the tag, and the end of a tag behind that. -/
def closed_later (rest : List Char) : Bool := (rest.dropWhile (· != '"')).contains '>'

/-- The value of an object type of the tag goes on behind it. -/
def open_ended (found : Match) : Bool := left_open found.text && closed_later found.rest

def first_type (found : Match) : List Char := (object_types found.text).head?.getD []

def last_type (found : Match) : List Char := (object_types found.text).getLast?.getD []

def first_mention (found : Match) : Option Mention := mention simple_fold (first_type found) found.text

def last_mention (found : Match) : Option Mention := mention simple_fold (last_type found) found.text

/-- The first and the last object type of a tag make the same mention of it, and none
    goes on behind it. -/
def clear (found : Match) : Bool := first_mention found = last_mention found && !open_ended found

/-- Two engines see the start of a tag at the same places, where the end of a tag
    follows. -/
def same_starts (other : Char → Char) (html : List Char) : Bool :=
  html.tails.all fun v => !v.contains '>' ||
    (strip simple_fold start_literal v).isSome == (strip other start_literal v).isSome

/-- Two engines see the id of a person at the same places of a tag. -/
def same_ids (other : Char → Char) (found : Match) : Bool :=
  first_type found != "person".toList ||
    found.text.tails.all fun v => (strip simple_fold id_literal v).isSome == (strip other id_literal v).isSome

/-- All engines see the same tags and ids in a text: neither is spelled with a letter
    that is not ASCII. -/
def same_spelling (html : String) : Bool :=
  [Char.toLower, python.lower].all fun other => same_starts other html.toList &&
    (find_all simple_fold MENTION_RE 0 html.toList).all (same_ids other)

/-- All engines read a text alike. -/
def read_alike (html : String) : Bool :=
  (find_all simple_fold MENTION_RE 0 html.toList).all clear && same_spelling html

section letters

/-- The letters that have a spelling outside ASCII. -/
def special (c : Char) : Bool := c == 's' || c == 'k' || c == 'i'

def plain (c : Char) : Bool := c.toLower == c && c.toNat < 128 && !special c

/-- An engine folds ASCII letters, and beyond ASCII at most takes a character for one of
    the special letters. -/
def Folds (canonical : Char → Char) : Prop :=
  ∀ x, canonical x = x.toLower ∨ (special (canonical x) = true ∧ x.toLower = x ∧ 128 ≤ x.toNat)

theorem folds_simple_fold : Folds simple_fold := by
  intro x
  unfold simple_fold
  split
  · rename_i hx
    exact .inr (hx ▸ by decide)
  split
  · rename_i hx
    exact .inr (hx ▸ by decide)
  · exact .inl rfl

theorem folds_toLower : Folds Char.toLower := fun _ => .inl rfl

theorem folds_lower : Folds python.lower := by
  intro x
  unfold python.lower
  split
  · rename_i hx
    exact .inr (hx ▸ by decide)
  split
  · rename_i hx
    exact .inr (hx ▸ by decide)
  split
  · rename_i hx
    obtain rfl | rfl := hx
    · exact .inr (by decide)
    · exact .inr (by decide)
  · exact .inl rfl

variable {canonical other : Char → Char} {c : Char}

theorem canonical_eq_iff (hfolds : Folds canonical) (hplain : plain c = true) (x : Char) :
    canonical x = canonical c ↔ x.toLower = c := by
  simp only [plain, Bool.and_eq_true, beq_iff_eq, decide_eq_true_eq, Bool.not_eq_true'] at hplain
  obtain ⟨⟨hlower, hascii⟩, hspecial⟩ := hplain
  have hself : canonical c = c := by
    obtain hfold | ⟨-, -, hbeyond⟩ := hfolds c
    · rw [hfold, hlower]
    · omega
  rw [hself]
  obtain hfold | ⟨hletter, hkept, hbeyond⟩ := hfolds x
  · rw [hfold]
  · refine iff_of_false ?_ ?_
    · rintro rfl
      rw [hletter] at hspecial
      exact absurd hspecial nofun
    · rw [hkept]
      rintro rfl
      omega

theorem uncased (hfolds : Folds canonical) (hplain : plain c = true) (hletter : c.isLower = false) : Uncased canonical c := by
  intro x
  rw [canonical_eq_iff hfolds hplain]
  constructor
  · intro hx
    exact rust.eq_of_toLower_eq hx hletter
  · rintro rfl
    simp only [plain, Bool.and_eq_true, beq_iff_eq] at hplain
    exact hplain.1.1

theorem uncased_quote (hfolds : Folds canonical) : Uncased canonical '"' := uncased hfolds (by decide) (by decide)

theorem uncased_end (hfolds : Folds canonical) : Uncased canonical '>' := uncased hfolds (by decide) (by decide)

/-- A literal without special letters is spelled alike for all engines. -/
theorem strip_plain (hfolds : Folds canonical) (hother : Folds other) {text s : List Char}
    (hplain : text.all plain = true) : strip canonical text s = strip other text s := by
  apply strip_congr
  intro c hc x
  have hc := List.all_eq_true.mp hplain c hc
  rw [canonical_eq_iff hfolds hc, canonical_eq_iff hother hc]

end letters

section tags

/-- The value of an object-type attribute that begins here and is closed. -/
def closed_value (v : List Char) : Option (List Char) :=
  (strip simple_fold type_literal v).bind fun value =>
    if '"' ∈ value then some (value.takeWhile (· != '"')) else none

theorem match_at_object_type (v : List Char) :
    (match_at simple_fold OBJECT_TYPE_RE v).map (·.group 1) = closed_value v := by
  have hexec : exec simple_fold OBJECT_TYPE_RE v =
      (strip simple_fold type_literal v).bind (exec simple_fold [.capture '"', .literal ['"']]) := rfl
  unfold match_at closed_value
  rw [hexec]
  cases strip simple_fold type_literal v with
  | none => rfl
  | some value =>
    rw [Option.bind_some, Option.bind_some]
    by_cases hquote : '"' ∈ value
    · obtain ⟨rest, hrest⟩ := dropWhile_stop hquote
      have hvalue := takeWhile_append_stop hrest
      have hbefore : '"' ∉ value.takeWhile (· != '"') := stop_not_mem_takeWhile
      rw [if_pos hquote]
      generalize value.takeWhile (· != '"') = before at hvalue hbefore ⊢
      rw [← hvalue, exec_capture_stop (uncased_quote folds_simple_fold) hbefore]
      rfl
    · rw [if_neg hquote, exec_capture_none (uncased_quote folds_simple_fold) hquote]
      rfl

/-- An object-type attribute that begins here is not closed. -/
def open_value (v : List Char) : Bool := (strip simple_fold type_literal v).any fun value => !value.contains '"'

/-- The part of the single pattern behind the start of a tag. -/
def attribute_and_end : Pattern := [.literal type_literal, .capture '"', .literal ['"'], .skip '>', .literal ['>']]

theorem no_end_in_suffix {v w : List Char} (hv : '>' ∉ v) (hw : w <:+ v) : '>' ∉ w := fun hmem => hv (hw.subset hmem)

theorem strip_suffix {canonical : Char → Char} {text v w : List Char} (hstrip : strip canonical text v = some w) : w <:+ v := by
  obtain ⟨before, rfl, -, -⟩ := strip_eq_some hstrip
  exact List.suffix_append _ _

theorem end_not_in_literal (literal : List Char) (hliteral : '>' ∉ literal) : ∀ c ∈ literal, simple_fold '>' ≠ simple_fold c := by
  intro c hc hsame
  exact hliteral ((uncased_end folds_simple_fold c).mp hsame.symm ▸ hc)

/-- An attribute within the tag is matched with the end of the tag, and one that is left
    open is not matched at all where nothing closes it later. -/
theorem exec_attribute_and_end {v rest : List Char} (hv : '>' ∉ v) (hopen : open_value v = true → closed_later rest = false) :
    exec simple_fold attribute_and_end (v ++ '>' :: rest) = (closed_value v).map fun value => ([value], rest) := by
  have hexec : exec simple_fold attribute_and_end (v ++ '>' :: rest) =
      (strip simple_fold type_literal (v ++ '>' :: rest)).bind
        (exec simple_fold [.capture '"', .literal ['"'], .skip '>', .literal ['>']]) := rfl
  rw [hexec, strip_append_stop (end_not_in_literal type_literal (by decide))]
  unfold closed_value
  unfold open_value at hopen
  cases hstrip : strip simple_fold type_literal v with
  | none => rfl
  | some value =>
    have hvalue := no_end_in_suffix hv (strip_suffix hstrip)
    rw [hstrip] at hopen
    rw [Option.map_some, Option.bind_some, Option.bind_some]
    by_cases hquote : '"' ∈ value
    · obtain ⟨after, hdrop⟩ := dropWhile_stop hquote
      have hsplit := takeWhile_append_stop hdrop
      have hbefore : '"' ∉ value.takeWhile (· != '"') := stop_not_mem_takeWhile
      rw [if_pos hquote]
      generalize value.takeWhile (· != '"') = before at hsplit hbefore ⊢
      subst hsplit
      have hafter : '>' ∉ after := fun hmem => hvalue (List.mem_append_right _ (List.mem_cons_of_mem _ hmem))
      rw [List.append_assoc, List.cons_append, exec_capture_stop (uncased_quote folds_simple_fold) hbefore,
        exec_skip_stop (uncased_end folds_simple_fold) hafter]
      rfl
    · have hlater : closed_later rest = false := hopen (by simpa using hquote)
      have hnone : exec simple_fold [.capture '"', .literal ['"'], .skip '>', .literal ['>']] (value ++ '>' :: rest) = none := by
        by_cases hclosing : '"' ∈ rest
        · obtain ⟨after, hdrop⟩ := dropWhile_stop hclosing
          have hsplit := takeWhile_append_stop hdrop
          have hbefore : '"' ∉ rest.takeWhile (· != '"') := stop_not_mem_takeWhile
          have hafter : '>' ∉ after := by
            unfold closed_later at hlater
            rw [hdrop] at hlater
            simpa using hlater
          generalize rest.takeWhile (· != '"') = before at hsplit hbefore
          have hall : '"' ∉ value ++ '>' :: before := by simp [hquote, hbefore]
          have hshape : value ++ '>' :: rest = (value ++ '>' :: before) ++ '"' :: after := by simp [← hsplit]
          rw [hshape, exec_capture_stop (uncased_quote folds_simple_fold) hall,
            exec_skip_none (uncased_end folds_simple_fold) hafter]
          rfl
        · exact exec_capture_none (uncased_quote folds_simple_fold) (by simp [hquote, hclosing])
      rw [if_neg hquote, hnone]
      rfl

/-- The single pattern takes the last attribute that is closed in the tag. -/
theorem exec_single {s body rest : List Char} (hstart : strip simple_fold start_literal s = some (body ++ '>' :: rest))
    (hbody : '>' ∉ body) (hopen : ∀ u, u <:+ body → open_value u = true → closed_later rest = false) :
    exec simple_fold rust.MENTION_RE s = (body.tails.filterMap closed_value).getLast?.map fun value => ([value], rest) := by
  have hexec : exec simple_fold rust.MENTION_RE s = (strip simple_fold start_literal s).bind fun after =>
      (splits '>' after).findSome? fun split => exec simple_fold attribute_and_end split.2 := rfl
  rw [hexec, hstart, Option.bind_some, findSome_splits_tails hbody, List.getLast?_filterMap, List.map_findSome?]
  apply findSome_congr
  intro u hu
  have hsuffix : u <:+ body := (List.mem_tails u body).mp (List.mem_reverse.mp hu)
  exact exec_attribute_and_end (no_end_in_suffix hbody hsuffix) (hopen u hsuffix)

theorem exec_single_none {s : List Char} (hstart : strip simple_fold start_literal s = none) :
    exec simple_fold rust.MENTION_RE s = none := by
  have hexec : exec simple_fold rust.MENTION_RE s = (strip simple_fold start_literal s).bind
      (exec simple_fold (.skip '>' :: attribute_and_end)) := rfl
  rw [hexec, hstart]
  rfl

theorem exec_tag {s body rest : List Char} (hstart : strip simple_fold start_literal s = some (body ++ '>' :: rest))
    (hbody : '>' ∉ body) : exec simple_fold MENTION_RE s = some ([], rest) := by
  have hexec : exec simple_fold MENTION_RE s =
      (strip simple_fold start_literal s).bind (exec simple_fold [.skip '>', .literal ['>']]) := rfl
  rw [hexec, hstart, Option.bind_some, exec_skip_stop (uncased_end folds_simple_fold) hbody]
  rfl

/-- No object type begins within the start of a tag. -/
theorem closed_value_start {found v : List Char} (hfound : ∀ x ∈ found, simple_fold x ≠ simple_fold 'd') :
    (found ++ v).tails.filterMap closed_value = v.tails.filterMap closed_value := by
  induction found with
  | nil => rfl
  | cons x found ih =>
    have hx : closed_value (x :: (found ++ v)) = none := by
      have hstrip : strip simple_fold type_literal (x :: (found ++ v)) = none := if_neg (hfound x List.mem_cons_self)
      rw [closed_value, hstrip]
      rfl
    rw [List.cons_append, List.tails_cons, List.filterMap_cons, hx]
    exact ih fun y hy => hfound y (List.mem_cons_of_mem _ hy)

theorem closed_value_end (v : List Char) : closed_value (v ++ ['>']) = closed_value v := by
  unfold closed_value
  rw [strip_append_stop (end_not_in_literal type_literal (by decide))]
  cases strip simple_fold type_literal v with
  | none => rfl
  | some value =>
    rw [Option.map_some, Option.bind_some, Option.bind_some]
    by_cases hquote : '"' ∈ value
    · rw [if_pos hquote, if_pos (List.mem_append_left _ hquote), takeWhile_append_of_mem hquote]
    · rw [if_neg hquote, if_neg (by simpa using hquote)]

theorem closed_values_end (v : List Char) : (v ++ ['>']).tails.filterMap closed_value = v.tails.filterMap closed_value := by
  induction v with
  | nil => rfl
  | cons x v ih =>
    rw [List.cons_append, List.tails_cons, List.tails_cons, List.filterMap_cons, List.filterMap_cons, ← List.cons_append,
      closed_value_end, ih]

theorem open_value_end {u : List Char} (hopen : open_value u = true) : open_value (u ++ ['>']) = true := by
  unfold open_value at hopen ⊢
  rw [strip_append_stop (end_not_in_literal type_literal (by decide))]
  cases hstrip : strip simple_fold type_literal u with
  | none => simp [hstrip] at hopen
  | some value =>
    rw [hstrip] at hopen
    simpa using hopen

/-- A tag with its parts: what begins at `s` is the start of a tag, its attributes and
    the rest behind the first `>`. -/
structure Tag (s found body rest : List Char) : Prop where
  text : s = found ++ body ++ '>' :: rest
  start : strip simple_fold start_literal s = some (body ++ '>' :: rest)
  spelled : found.map simple_fold = start_literal.map simple_fold
  body : '>' ∉ body

theorem tag_of_strip {s after : List Char} (hstart : strip simple_fold start_literal s = some after) (hend : '>' ∈ after) :
    ∃ found body rest, Tag s found body rest := by
  obtain ⟨found, rfl, -, hspelled⟩ := strip_eq_some hstart
  obtain ⟨rest, hdrop⟩ := dropWhile_stop hend
  have hsplit := takeWhile_append_stop hdrop
  have hbody : '>' ∉ after.takeWhile (· != '>') := stop_not_mem_takeWhile
  refine ⟨found, after.takeWhile (· != '>'), rest, ?_, ?_, hspelled, hbody⟩
  · rw [List.append_assoc, hsplit]
  · rw [hstart, hsplit]

variable {s found body rest : List Char}

theorem Tag.not_type (htag : Tag s found body rest) : ∀ x ∈ found, simple_fold x ≠ simple_fold 'd' := by
  intro x hx hsame
  have hmem : simple_fold x ∈ start_literal.map simple_fold := htag.spelled ▸ List.mem_map_of_mem hx
  rw [hsame] at hmem
  exact absurd hmem (by decide)

theorem Tag.not_end (htag : Tag s found body rest) : '>' ∉ found := by
  intro hmem
  have hend : simple_fold '>' ∈ start_literal.map simple_fold := htag.spelled ▸ List.mem_map_of_mem hmem
  exact absurd hend (by decide)

theorem Tag.shape (htag : Tag s found body rest) : s = (found ++ body ++ ['>']) ++ rest := by
  rw [htag.text]
  simp

theorem Tag.match_at (htag : Tag s found body rest) :
    match_at simple_fold MENTION_RE s = some ⟨found ++ body ++ ['>'], [], rest⟩ := by
  have hexec := exec_tag htag.start htag.body
  rw [htag.shape] at hexec ⊢
  exact match_at_of_exec hexec

theorem Tag.object_types (htag : Tag s found body rest) :
    object_types (found ++ body ++ ['>']) = body.tails.filterMap closed_value := by
  have htypes (tag : List Char) : webex.object_types tag = tag.tails.filterMap closed_value := by
    unfold webex.object_types
    congr 1
    funext v
    exact match_at_object_type v
  rw [htypes, List.append_assoc, closed_value_start htag.not_type, closed_values_end]

theorem not_closed_later (hended : open_ended ⟨found ++ body ++ ['>'], [], rest⟩ = false)
    (u : List Char) (hu : u <:+ found ++ body) (hopen : open_value u = true) : closed_later rest = false := by
  have hleft : left_open (found ++ body ++ ['>']) = true := by
    refine List.any_eq_true.mpr ⟨u ++ ['>'], ?_, open_value_end hopen⟩
    obtain ⟨before, hbefore⟩ := hu
    exact (List.mem_tails _ _).mpr ⟨before, by rw [← List.append_assoc, hbefore]⟩
  simpa only [open_ended, hleft, Bool.true_and] using hended

/-- Where no object type is closed, the single pattern matches nowhere in the tag. -/
theorem exec_within {v : List Char} (hv : '>' ∉ v) (htypes : ∀ u, u <:+ v → closed_value u = none)
    (hopen : ∀ u, u <:+ v → open_value u = true → closed_later rest = false) :
    exec simple_fold rust.MENTION_RE (v ++ '>' :: rest) = none := by
  cases hstart : strip simple_fold start_literal v with
  | none =>
    apply exec_single_none
    rw [strip_append_stop (end_not_in_literal start_literal (by decide)), hstart]
    rfl
  | some inner =>
    have hinner := strip_suffix hstart
    have hfound : strip simple_fold start_literal (v ++ '>' :: rest) = some (inner ++ '>' :: rest) := by
      rw [strip_append_stop (end_not_in_literal start_literal (by decide)), hstart]
      rfl
    have hnone : inner.tails.filterMap closed_value = [] := by
      rw [List.filterMap_eq_nil_iff]
      intro u hu
      exact htypes u (((List.mem_tails u inner).mp hu).trans hinner)
    rw [exec_single hfound (no_end_in_suffix hv hinner) fun u hu => hopen u (hu.trans hinner), hnone]
    rfl

theorem find_all_within {v : List Char} (hv : '>' ∉ v) (htypes : ∀ u, u <:+ v → closed_value u = none)
    (hopen : ∀ u, u <:+ v → open_value u = true → closed_later rest = false) :
    find_all simple_fold rust.MENTION_RE 0 (v ++ '>' :: rest) = find_all simple_fold rust.MENTION_RE 0 rest := by
  have hnone (u : List Char) (hu : u <:+ v) : regex.match_at simple_fold rust.MENTION_RE (u ++ '>' :: rest) = none := by
    rw [regex.match_at, exec_within (no_end_in_suffix hv hu) (fun w hw => htypes w (hw.trans hu))
      fun w hw => hopen w (hw.trans hu)]
    rfl
  induction v with
  | nil => exact find_all_next (hnone [] (List.suffix_refl _))
  | cons x v ih =>
    have hsuffix : v <:+ x :: v := List.suffix_cons x v
    have hhere : regex.match_at simple_fold rust.MENTION_RE (x :: (v ++ '>' :: rest)) = none :=
      hnone (x :: v) (List.suffix_refl _)
    rw [List.cons_append, find_all_next hhere]
    exact ih (no_end_in_suffix hv hsuffix) (fun u hu => htypes u (hu.trans hsuffix)) (fun u hu => hopen u (hu.trans hsuffix))
      fun u hu => hnone u (hu.trans hsuffix)

end tags

section loops

/-- What a mention adds to what has been collected. -/
def Collected.note (state : Collected) : Option Mention → Collected
  | none => state
  | some (.person id) =>
    if id ∈ state.seen then state
    else { result := { state.result with mentioned_people := state.result.mentioned_people ++ [id] }, seen := id :: state.seen }
  | some (.group group_type) =>
    if "group:" ++ group_type ∈ state.seen then state
    else {
      result := { state.result with mentioned_groups := state.result.mentioned_groups ++ [group_type] }
      seen := ("group:" ++ group_type) :: state.seen }

/-- Nothing is seen yet, so the first tag shows what it is read as. -/
theorem note_inj {left right : Option Mention}
    (hsame : (Collected.note {} left).result = (Collected.note {} right).result) : left = right := by
  obtain _ | left := left <;> obtain _ | right := right
  · rfl
  · cases right <;> simp [Collected.note] at hsame
  · cases left <;> simp [Collected.note] at hsame
  · cases left <;> cases right <;> simp_all [Collected.note]

variable {canonical : Char → Char}

/-- A tag adds its mention. -/
theorem collect_eq (state : Collected) (object_type tag : List Char) :
    collect canonical state object_type tag = state.note (mention canonical object_type tag) := by
  unfold collect mention
  split
  · cases search canonical (attribute_re "data-object-id") tag with
    | none => rfl
    | some id_match =>
      simp only [Option.bind_some]
      generalize String.ofList (id_match.group 1) = id
      by_cases hid : id = ""
      · simp [hid, Collected.note]
      · by_cases hseen : id ∈ state.seen
        · simp [hid, hseen, Collected.note]
        · simp [hid, hseen, Collected.note]
  split
  · cases search canonical (attribute_re "data-group-type") tag with
    | none => rfl
    | some group_match =>
      simp only [Option.bind_some]
      generalize String.ofList (group_match.group 1) = group_type
      by_cases htype : group_type = ""
      · simp [htype, Collected.note]
      · by_cases hseen : "group:" ++ group_type ∈ state.seen
        · simp [htype, hseen, Collected.note]
        · simp [htype, hseen, Collected.note]
  · rfl

/-- The first object type of a tag, as the two steps find it. -/
theorem search_object_type (tag : List Char) :
    (search simple_fold OBJECT_TYPE_RE tag).map (·.group 1) = (object_types tag).head? := by
  rw [search_eq, object_types, List.head?_filterMap, List.map_findSome?]
  rfl

/-- One turn of the loop over the matches of the single pattern. -/
abbrev single_turn (state : Collected) (cap : Match) : Collected := collect simple_fold state (cap.group 1) cap.text

/-- One turn of the loop over the tags. -/
abbrev two_step_turn (state : Collected) (found : Match) : Collected :=
  collect simple_fold state (((search simple_fold OBJECT_TYPE_RE found.text).map (·.group 1)).getD []) found.text

/-- What the first object types of the tags lead to. -/
def by_first (tags : List Match) (state : Collected) : Collected :=
  tags.foldl (fun state found => state.note (first_mention found)) state

/-- What the last object types of the tags lead to. -/
def by_last (tags : List Match) (state : Collected) : Collected :=
  tags.foldl (fun state found => state.note (last_mention found)) state

/-- The single pattern reads a tag by its last object type. -/
theorem single_tag {s found body rest : List Char} (htag : Tag s found body rest)
    (hended : open_ended ⟨found ++ body ++ ['>'], [], rest⟩ = false) (state : Collected) :
    (find_all simple_fold rust.MENTION_RE 0 s).foldl single_turn state =
      (find_all simple_fold rust.MENTION_RE 0 rest).foldl single_turn
        (state.note (last_mention ⟨found ++ body ++ ['>'], [], rest⟩)) := by
  have hopen := not_closed_later hended
  have hsingle := exec_single htag.start htag.body fun u hu => hopen u (hu.trans (List.suffix_append _ _))
  rw [← htag.object_types] at hsingle
  unfold last_mention last_type
  cases hlast : (object_types (found ++ body ++ ['>'])).getLast? with
  | none =>
    have htypes : ∀ u, u <:+ found ++ body → closed_value u = none := by
      intro u hu
      have hnone := List.getLast?_eq_none_iff.mp hlast
      rw [htag.object_types, ← closed_value_start htag.not_type, List.filterMap_eq_nil_iff] at hnone
      exact hnone u ((List.mem_tails _ _).mpr hu)
    have hend : '>' ∉ found ++ body := by simp [htag.not_end, htag.body]
    have hempty : mention simple_fold [] (found ++ body ++ ['>']) = none := rfl
    rw [htag.text, find_all_within hend htypes hopen]
    simp only [Option.getD_none, hempty, Collected.note]
  | some last =>
    rw [hlast, Option.map_some] at hsingle
    have hmatch : match_at simple_fold rust.MENTION_RE s = some ⟨found ++ body ++ ['>'], [last], rest⟩ := by
      rw [htag.shape] at hsingle ⊢
      exact match_at_of_exec hsingle
    rw [find_all_match hmatch (by simp), List.foldl_cons, single_turn, collect_eq]
    rfl

/-- The two steps read a tag by its first object type. -/
theorem two_step_turn_eq (state : Collected) (found : Match) :
    two_step_turn state found = state.note (first_mention found) := by
  rw [two_step_turn, search_object_type, collect_eq]
  rfl

theorem no_match {s : List Char} (htag : ¬∃ found body rest, Tag s found body rest) :
    match_at simple_fold rust.MENTION_RE s = none ∧ match_at simple_fold MENTION_RE s = none := by
  have hnone (pattern : Pattern) (hend : .literal ['>'] ∈ pattern) :
      (strip simple_fold start_literal s).bind (exec simple_fold pattern) = none := by
    cases hstart : strip simple_fold start_literal s with
    | none => rfl
    | some after =>
      apply exec_none_of_literal (uncased_end folds_simple_fold) hend
      intro hmem
      exact htag (tag_of_strip hstart hmem)
  have hsingle : exec simple_fold rust.MENTION_RE s = none := hnone (.skip '>' :: attribute_and_end) (by simp [attribute_and_end])
  have htwo : exec simple_fold MENTION_RE s = none := hnone [.skip '>', .literal ['>']] (by simp)
  constructor
  · rw [match_at, hsingle]
    rfl
  · rw [match_at, htwo]
    rfl

/-- Where no object type goes on behind its tag, the single pattern collects the tags
    by their last object types. -/
theorem single_loop (n : Nat) {s : List Char} (hlength : s.length ≤ n) (state : Collected)
    (hended : (find_all simple_fold MENTION_RE 0 s).all (!open_ended ·) = true) :
    (find_all simple_fold rust.MENTION_RE 0 s).foldl single_turn state =
      by_last (find_all simple_fold MENTION_RE 0 s) state := by
  induction n generalizing s state with
  | zero =>
    have hnil : s = [] := List.length_eq_zero_iff.mp (by omega)
    subst hnil
    rfl
  | succ n ih =>
    cases s with
    | nil => rfl
    | cons x s =>
      by_cases htag : ∃ found body rest, Tag (x :: s) found body rest
      · obtain ⟨found, body, rest, htag⟩ := htag
        have hrest : rest.length ≤ n := by
          have hshape := congrArg List.length htag.text
          simp only [List.length_cons, List.length_append] at hshape hlength
          omega
        rw [find_all_match htag.match_at (by simp)] at hended ⊢
        rw [List.all_cons, Bool.and_eq_true, Bool.not_eq_true'] at hended
        rw [single_tag htag hended.1, ih hrest _ hended.2, by_last, by_last, List.foldl_cons]
      · obtain ⟨hsingle, htwo⟩ := no_match htag
        have hshorter : s.length ≤ n := by simpa using hlength
        rw [find_all_next htwo] at hended ⊢
        rw [find_all_next hsingle]
        exact ih hshorter state hended

end loops

section spelling

variable {other : Char → Char} {html : List Char}

/-- Two engines that see a literal in the same places read the same behind it. -/
theorem strip_eq_of_isSome {literal v : List Char}
    (hsame : (strip simple_fold literal v).isSome = (strip other literal v).isSome) :
    strip simple_fold literal v = strip other literal v := by
  cases hleft : strip simple_fold literal v with
  | none =>
    rw [hleft] at hsame
    exact (Option.isNone_iff_eq_none.mp (by simpa using hsame.symm)).symm
  | some after =>
    rw [hleft, Option.isSome_some] at hsame
    obtain ⟨found, hright⟩ := Option.isSome_iff_exists.mp hsame.symm
    rw [hright, strip_drop hleft, strip_drop hright]

theorem tags_eq (hfolds : Folds other) (hstarts : same_starts other html = true) :
    find_all simple_fold MENTION_RE 0 html = find_all other MENTION_RE 0 html := by
  apply find_all_congr
  intro v hv
  by_cases hend : '>' ∈ v
  · have hstart := List.all_eq_true.mp hstarts v ((List.mem_tails _ _).mpr hv)
    simp only [List.contains_eq_mem, hend, decide_true, Bool.not_true, Bool.false_or, beq_iff_eq] at hstart
    have hexec (canonical : Char → Char) : exec canonical MENTION_RE v =
        (strip canonical start_literal v).bind (exec canonical [.skip '>', .literal ['>']]) := rfl
    have hrest (w : List Char) : exec simple_fold [.skip '>', .literal ['>']] w = exec other [.skip '>', .literal ['>']] w := by
      apply exec_congr
      intro literal hliteral u _
      simp only [List.mem_cons, Piece.literal.injEq, reduceCtorEq, List.not_mem_nil, or_false, false_or] at hliteral
      exact hliteral ▸ strip_plain folds_simple_fold hfolds (by decide)
    rw [hexec, hexec, strip_eq_of_isSome hstart, funext hrest]
  · have hliteral : Piece.literal ['>'] ∈ MENTION_RE := by simp [MENTION_RE]
    rw [exec_none_of_literal (uncased_end folds_simple_fold) hliteral hend,
      exec_none_of_literal (uncased_end hfolds) hliteral hend]

/-- Two engines that see the same tags and ids collect the same in two steps. -/
theorem two_step_eq (hfolds : Folds other) (hstarts : same_starts other html = true)
    (hids : (find_all simple_fold MENTION_RE 0 html).all (same_ids other) = true) :
    two_step simple_fold MENTION_RE OBJECT_TYPE_RE html = two_step other MENTION_RE OBJECT_TYPE_RE html := by
  have hplain {literal v : List Char} (hliteral : literal.all plain = true) : strip simple_fold literal v = strip other literal v :=
    strip_plain folds_simple_fold hfolds hliteral
  have hattribute {name : String} {tag : List Char}
      (hname : ∀ v, v <:+ tag → strip simple_fold (name ++ "=\"").toList v = strip other (name ++ "=\"").toList v) :
      search simple_fold (attribute_re name) tag = search other (attribute_re name) tag := by
    apply search_congr
    intro v hv
    apply exec_congr
    intro literal hliteral u hu
    simp only [attribute_re, List.mem_cons, Piece.literal.injEq, reduceCtorEq, List.not_mem_nil, or_false, false_or] at hliteral
    obtain rfl | rfl := hliteral
    · exact hname u (hu.trans hv)
    · exact hplain (by decide)
  unfold two_step
  rw [← tags_eq hfolds hstarts]
  apply List.foldl_ext
  intro state found hfound
  have htype : search simple_fold OBJECT_TYPE_RE found.text = search other OBJECT_TYPE_RE found.text :=
    hattribute fun v _ => hplain (by decide)
  have hgroup : search simple_fold (attribute_re "data-group-type") found.text = search other (attribute_re "data-group-type") found.text :=
    hattribute fun v _ => hplain (by decide)
  have hperson (htype : first_type found = "person".toList) :
      search simple_fold (attribute_re "data-object-id") found.text = search other (attribute_re "data-object-id") found.text := by
    apply hattribute
    intro v hv
    have hids := List.all_eq_true.mp hids found hfound
    simp only [same_ids, htype, bne_self_eq_false, Bool.false_or] at hids
    have hid := List.all_eq_true.mp hids v ((List.mem_tails _ _).mpr hv)
    have hliteral : ("data-object-id" ++ "=\"").toList = id_literal := rfl
    rw [hliteral]
    exact strip_eq_of_isSome (beq_iff_eq.mp hid)
  have hmention : mention simple_fold (first_type found) found.text = mention other (first_type found) found.text := by
    unfold mention
    by_cases htype : first_type found = "person".toList
    · rw [if_pos htype, if_pos htype, hperson htype]
    · rw [if_neg htype, if_neg htype, hgroup]
  rw [← htype, search_object_type, collect_eq, collect_eq]
  exact congrArg state.note hmention

end spelling

/-- The four parsers find the same mentions. -/
def SameMentions (html : String) : Prop :=
  go.parse_mentions html = rust.parse_mentions (some html) ∧ node.parse_mentions (some html) = rust.parse_mentions (some html) ∧
    python.parse_mentions (some html) = rust.parse_mentions (some html)

theorem go_parse_mentions (html : String) : go.parse_mentions html = rust.parse_mentions (some html) := by
  unfold go.parse_mentions rust.parse_mentions go.mention_re
  simp only [List.zip_map', List.foldl_map]

section parsers

variable {html : String}

/-- What Rust finds where no object type goes on behind its tag. -/
theorem rust_parse_mentions (hended : (find_all simple_fold MENTION_RE 0 html.toList).all (!open_ended ·) = true) :
    rust.parse_mentions (some html) = (by_last (find_all simple_fold MENTION_RE 0 html.toList) {}).result := by
  have hloop := single_loop html.toList.length (Nat.le_refl _) {} hended
  rw [← hloop]
  by_cases hhtml : html = ""
  · subst hhtml
    rfl
  · simp only [rust.parse_mentions, if_neg hhtml]

/-- What the two steps of an engine find that sees the same tags and ids as Rust. -/
theorem two_step_mentions {other : Char → Char} (hfolds : Folds other) (hstarts : same_starts other html.toList = true)
    (hids : (find_all simple_fold MENTION_RE 0 html.toList).all (same_ids other) = true) :
    (if html = "" then {} else (two_step other MENTION_RE OBJECT_TYPE_RE html.toList).result) =
      (by_first (find_all simple_fold MENTION_RE 0 html.toList) {}).result := by
  have hloop : two_step simple_fold MENTION_RE OBJECT_TYPE_RE html.toList =
      by_first (find_all simple_fold MENTION_RE 0 html.toList) {} :=
    List.foldl_ext _ _ _ fun state found _ => two_step_turn_eq state found
  rw [← two_step_eq hfolds hstarts hids, hloop]
  split
  · rename_i hhtml
    subst hhtml
    rfl
  · rfl

/-- Where no object type goes on behind its tag, the parsers agree if the first and the
    last object types of the tags lead to the same lists. -/
theorem same_mentions_iff (hended : (find_all simple_fold MENTION_RE 0 html.toList).all (!open_ended ·) = true)
    (hspelling : same_spelling html = true) : SameMentions html ↔
      (by_first (find_all simple_fold MENTION_RE 0 html.toList) {}).result =
        (by_last (find_all simple_fold MENTION_RE 0 html.toList) {}).result := by
  simp only [same_spelling, List.all_cons, List.all_nil, Bool.and_eq_true, and_true] at hspelling
  obtain ⟨⟨hnode_starts, hnode_ids⟩, hpython_starts, hpython_ids⟩ := hspelling
  have hnode : node.parse_mentions (some html) = _ := two_step_mentions folds_toLower hnode_starts hnode_ids
  have hpython : python.parse_mentions (some html) = _ := two_step_mentions folds_lower hpython_starts hpython_ids
  unfold SameMentions
  rw [hnode, hpython, rust_parse_mentions hended]
  simp only [go_parse_mentions, rust_parse_mentions hended, true_and, and_self]

/-- A single tag is read alike exactly when its first and its last object type make the
    same mention of it. -/
theorem one_tag_iff {found : Match} (htag : find_all simple_fold MENTION_RE 0 html.toList = [found])
    (hended : open_ended found = false) (hspelling : same_spelling html = true) :
    SameMentions html ↔ first_mention found = last_mention found := by
  have hall : (find_all simple_fold MENTION_RE 0 html.toList).all (!open_ended ·) = true := by simp [htag, hended]
  rw [same_mentions_iff hall hspelling, htag]
  constructor
  · exact note_inj
  · intro hsame
    exact congrArg (fun mention => (Collected.note {} mention).result) hsame

end parsers

/-- The parsers agree on every text that they read alike. -/
theorem same_mentions (html : String) (halike : read_alike html = true) : SameMentions html := by
  rw [read_alike, Bool.and_eq_true, List.all_eq_true] at halike
  obtain ⟨hclear, hspelling⟩ := halike
  have hended : (find_all simple_fold MENTION_RE 0 html.toList).all (!open_ended ·) = true := by
    rw [List.all_eq_true]
    intro found hfound
    exact (Bool.and_eq_true_iff.mp (hclear found hfound)).2
  rw [same_mentions_iff hended hspelling]
  congr 1
  apply List.foldl_ext
  intro state found hfound
  have hsame := (Bool.and_eq_true_iff.mp (hclear found hfound)).1
  rw [of_decide_eq_true hsame]

/-- One person in one tag. -/
theorem same_mentions_person :
    SameMentions "<spark-mention data-object-type=\"person\" data-object-id=\"u\">" :=
  same_mentions _ (by decide)

/-- Two object types in one tag: the first is a person, the last is not. -/
theorem two_object_types_not_same :
    ¬SameMentions "<spark-mention data-object-type=\"person\" data-object-type=\"\" data-object-id=\"u\">" := by
  rintro ⟨-, hnode, -⟩
  exact absurd (congrArg ParsedMentions.mentioned_people hnode) (by decide +kernel)

end webex
