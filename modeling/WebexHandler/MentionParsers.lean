import WebexHandler.Regex

open regex

namespace webex

structure ParsedMentions where
  mentioned_people : List String := []
  mentioned_groups : List String := []
  deriving DecidableEq

/-- The result of the loop over the tags so far, and what it has seen. -/
structure Collected where
  result : ParsedMentions := {}
  seen : List String := []

/-- `data-...="([^"]*)"`. -/
def attribute_re (name : String) : Pattern := [.literal (name ++ "=\"").toList, .capture '"', .literal ['"']]

/-- What the four parsers do with a tag once they have its object type. -/
def collect (canonical : Char → Char) (state : Collected) (object_type tag : List Char) : Collected :=
  if object_type = "person".toList then
    match search canonical (attribute_re "data-object-id") tag with
    | none => state
    | some id_match =>
      let id := String.ofList (id_match.group 1)
      if id ≠ "" ∧ id ∉ state.seen then
        { result := { state.result with mentioned_people := state.result.mentioned_people ++ [id] }
          seen := id :: state.seen }
      else state
  else if object_type = "groupMention".toList then
    match search canonical (attribute_re "data-group-type") tag with
    | none => state
    | some group_match =>
      let group_type := String.ofList (group_match.group 1)
      if group_type ≠ "" ∧ "group:" ++ group_type ∉ state.seen then
        { result := { state.result with mentioned_groups := state.result.mentioned_groups ++ [group_type] }
          seen := ("group:" ++ group_type) :: state.seen }
      else state
  else state

/-- The simple case folding of Unicode, as far as it leads to ASCII: the long s and the
    Kelvin sign are spellings of a letter. -/
def simple_fold (c : Char) : Char := if c = '\u017F' then 's' else if c = '\u212A' then 'k' else c.toLower

namespace rust

/-- `(?i)<spark-mention[^>]*data-object-type="([^"]*)"[^>]*>`. -/
def MENTION_RE : Pattern :=
  [.literal "<spark-mention".toList, .skip '>', .literal "data-object-type=\"".toList, .capture '"', .literal ['"'],
    .skip '>', .literal ['>']]

def parse_mentions (html : Option String) : ParsedMentions :=
  match html with
  | none => {}
  | some html =>
    if html = "" then {}
    else ((find_all simple_fold MENTION_RE 0 html.toList).foldl
      (fun state cap => collect simple_fold state (cap.group 1) cap.text) {}).result

end rust

namespace go

def mention_re : Pattern := rust.MENTION_RE

/-- The captures and the tags of the matches come from two searches and go together by
    their index. -/
def parse_mentions (html : String) : ParsedMentions :=
  if html = "" then {}
  else
    let found := (find_all simple_fold mention_re 0 html.toList).map (·.group 1)
    let all_tags := (find_all simple_fold mention_re 0 html.toList).map (·.text)
    ((found.zip all_tags).foldl (fun state pair => collect simple_fold state pair.1 pair.2) {}).result

end go

/-- A parser in two steps: the tags first, and the object type of each from its first
    attribute. -/
def two_step (canonical : Char → Char) (mention_re object_type_re : Pattern) (html : List Char) : Collected :=
  (find_all canonical mention_re 0 html).foldl (fun state found =>
    let object_type := ((search canonical object_type_re found.text).map (·.group 1)).getD []
    collect canonical state object_type found.text) {}

namespace node

/-- `/<spark-mention[^>]*>/gi`. -/
def MENTION_RE : Pattern := [.literal "<spark-mention".toList, .skip '>', .literal ['>']]

def OBJECT_TYPE_RE : Pattern := attribute_re "data-object-type"

/-- Without the flag `u` no other character is a spelling of an ASCII letter. -/
def parse_mentions (html : Option String) : ParsedMentions :=
  match html with
  | none => {}
  | some html => if html = "" then {} else (two_step Char.toLower MENTION_RE OBJECT_TYPE_RE html.toList).result

end node

namespace python

/-- `re.IGNORECASE` for text: also the dotted capital i and the dotless i are spellings
    of i. -/
def lower (c : Char) : Char :=
  if c = '\u017F' then 's' else if c = '\u212A' then 'k' else if c = '\u0130' ∨ c = '\u0131' then 'i' else c.toLower

def MENTION_RE : Pattern := node.MENTION_RE

def OBJECT_TYPE_RE : Pattern := attribute_re "data-object-type"

def parse_mentions (html : Option String) : ParsedMentions :=
  match html with
  | none => {}
  | some html => if html = "" then {} else (two_step lower MENTION_RE OBJECT_TYPE_RE html.toList).result

end python

end webex
