import WebexHandler.Python.Urllib
import WebexHandler.Rust.MercurySocket.Socket

open dict form_urlencoded person_id url_syntax

namespace webex

/-- The parameters that both sockets set, at the time they read. -/
def parameters (timestamp : Nat) : List (String × String) :=
  [("outboundWireFormat", "text"), ("bufferStates", "true"), ("aliasHttpStatus", "true"),
    ("clientTimestamp", toString timestamp)]

def is_parameter (key : String) : Bool :=
  key == "outboundWireFormat" || key == "bufferStates" || key == "aliasHttpStatus" || key == "clientTimestamp"

/-- A query has each parameter once, and besides them the pairs of another query. -/
structure Preserves (timestamp : Nat) (base prepared : List (String × String)) : Prop where
  set_once : ∀ parameter ∈ parameters timestamp,
    prepared.filter (fun pair => pair.1 = parameter.1) = [parameter]
  others : prepared.filter (fun pair => !is_parameter pair.1) = base.filter (fun pair => !is_parameter pair.1)

def parameter_names : List String := ["outboundWireFormat", "bufferStates", "aliasHttpStatus", "clientTimestamp"]

theorem keys_parameters (timestamp : Nat) : (parameters timestamp).map Prod.fst = parameter_names := rfl

theorem parameters_nodup (timestamp : Nat) : ((parameters timestamp).map Prod.fst).Nodup := by
  rw [keys_parameters]
  decide

theorem is_parameter_iff (timestamp : Nat) (key : String) :
    is_parameter key = true ↔ ∃ parameter ∈ parameters timestamp, parameter.1 = key := by
  have hnames : is_parameter key = true ↔ key ∈ parameter_names := by
    simp only [is_parameter, parameter_names, Bool.or_eq_true, beq_iff_eq, List.mem_cons, List.not_mem_nil, or_false,
      or_assoc]
  rw [hnames, ← keys_parameters timestamp, List.mem_map]

theorem is_parameter_of_mem {timestamp : Nat} {parameter : String × String} (hmem : parameter ∈ parameters timestamp) :
    is_parameter parameter.1 = true :=
  (is_parameter_iff timestamp _).mpr ⟨parameter, hmem, rfl⟩

namespace python.mercury_socket

open python.urllib

/-- `v[0] if len(v) == 1 else v`. -/
def param : List String → Param
  | [value] => .text value
  | values => .list values

/-- The dictionary of `_prepare_url`. -/
def prepared_params (query : List Char) (timestamp : Nat) : Dict String Param :=
  let existing_params := parse_qs query
  let params := existing_params.map_values param
  let params := params.set "outboundWireFormat" (.text "text")
  let params := params.set "bufferStates" (.text "true")
  let params := params.set "aliasHttpStatus" (.text "true")
  params.set "clientTimestamp" (.text (toString timestamp))

/-- `_prepare_url`, at a time of the event loop in milliseconds. -/
def prepare_url (urllib : Urllib) (base_url : List Char) (timestamp : Nat) : Option (List Char) := do
  let parsed ← urllib.urlparse base_url
  let new_query := urllib.urlencode (prepared_params parsed.query timestamp)
  return urllib.urlunparse { parsed with query := new_query }

/-- The prepared URL is read with the host and the path of the base URL, and the rest of
    its query. -/
def PreservesUrl (urllib : Urllib) (base_url : List Char) (timestamp : Nat) (parsed : ParseResult) : Prop :=
  ∃ prepared_url prepared, prepare_url urllib base_url timestamp = some prepared_url ∧
    urllib.urlparse prepared_url = some prepared ∧ prepared.netloc = parsed.netloc ∧ prepared.path = parsed.path ∧
    Preserves timestamp (parse_qsl parsed.query true) (parse_qsl prepared.query true)

/-- The pairs of a query that are no parameters have values, and different keys. -/
def plain_query (pairs : List (String × String)) : Prop :=
  (∀ pair ∈ pairs.filter (fun pair => !is_parameter pair.1), pair.2 ≠ "") ∧
    ((pairs.filter (fun pair => !is_parameter pair.1)).map Prod.fst).Nodup

/-- Values on their own, and none of them empty, are what is left of pairs with different
    keys alone. -/
theorem grouped_eq_iff {join : List String → String} (hsingle : ∀ value, join [value] = value)
    (hempty : ∀ values, join values = "" → values = [""]) (pairs : List (String × String)) :
    ((Dict.group (pairs.filter fun pair => pair.2 != "")).map_values join).entries = pairs ↔
      (∀ pair ∈ pairs, pair.2 ≠ "") ∧ (pairs.map Prod.fst).Nodup := by
  constructor
  · intro heq
    constructor
    · intro pair hmem hblank
      rw [← heq] at hmem
      obtain ⟨⟨key, values⟩, hentry, rfl⟩ := List.mem_map.mp hmem
      have hvalue : "" ∈ values := by
        rw [hempty values hblank]
        exact List.mem_singleton_self ""
      exact absurd (List.mem_filter.mp (Dict.mem_of_mem_group hentry hvalue)).2 nofun
    · rw [← heq]
      exact ((Dict.group (pairs.filter fun pair => pair.2 != "")).map_values join).nodup
  · rintro ⟨hvalues, hnodup⟩
    have hall : pairs.filter (fun pair => pair.2 != "") = pairs :=
      List.filter_eq_self.mpr fun pair hmem => bne_iff_ne.mpr (hvalues pair hmem)
    rw [hall]
    refine (congrArg (List.map _) (Dict.group_of_nodup hnodup)).trans ?_
    rw [List.map_map]
    refine (List.map_congr_left fun pair _ => ?_).trans (List.map_id _)
    exact Prod.ext rfl (hsingle pair.2)

variable {urllib : Urllib}

theorem str_param_empty {values : List String} (hempty : urllib.str (param values) = "") : values = [""] := by
  have hbrackets : ∀ items, urllib.str (.list items) ≠ "" := by
    intro items h
    have htext := congrArg String.toList h
    simp [Urllib.str] at htext
  match values with
  | [value] => exact congrArg (fun value => [value]) hempty
  | [] => exact absurd hempty (hbrackets _)
  | _ :: _ :: _ => exact absurd hempty (hbrackets _)

theorem prepared_params_str (query : List Char) (timestamp : Nat) :
    (prepared_params query timestamp).map_values urllib.str =
      ((parse_qs query).map_values fun values => urllib.str (param values)).set_all (parameters timestamp) := by
  have hvalues : ((parse_qs query).map_values param).map_values urllib.str =
      (parse_qs query).map_values fun values => urllib.str (param values) := by
    ext1
    exact List.map_map
  simp only [prepared_params, Dict.map_values_set, hvalues]
  rfl

/-- The rest of the prepared query is the rest of the query, without the pairs with no
    value, the values of a key joined. -/
theorem preserves_iff (query : List Char) (timestamp : Nat) :
    Preserves timestamp (parse_qsl query true) (parse_qsl (urllib.urlencode (prepared_params query timestamp)) true) ↔
      plain_query (parse_qsl query true) := by
  rw [parse_qsl_urlencode, prepared_params_str]
  set values := (parse_qs query).map_values fun values => urllib.str (param values) with hvalues
  have hothers : (values.set_all (parameters timestamp)).restrict (fun key => !is_parameter key) =
      values.restrict fun key => !is_parameter key := by
    refine Dict.restrict_set_all fun parameter hmem => ?_
    rw [is_parameter_of_mem hmem]
    rfl
  have hrest : (values.restrict fun key => !is_parameter key).entries =
      ((Dict.group (((parse_qsl query true).filter fun pair => !is_parameter pair.1).filter fun pair =>
        pair.2 != "")).map_values fun values => urllib.str (param values)).entries := by
    rw [hvalues, Dict.restrict_map_values, parse_qs, Dict.restrict_group, parse_qsl_eq, parse_qsl_eq]
    simp only [List.filter_filter, Bool.false_or, Bool.true_or, Bool.true_and, Bool.and_comm]
  have hiff := @grouped_eq_iff (fun values => urllib.str (param values)) (fun _ => rfl) (fun _ h => str_param_empty h)
    ((parse_qsl query true).filter fun pair => !is_parameter pair.1)
  rw [← hrest] at hiff
  rw [plain_query, ← hiff]
  constructor
  · intro hpreserves
    exact (congrArg Dict.entries hothers).symm.trans hpreserves.others
  · intro hkept
    refine ⟨fun parameter hmem => ?_, ?_⟩
    · exact Dict.filter_set_all (parameters_nodup timestamp) hmem
    · exact (congrArg Dict.entries hothers).trans hkept

variable {base_url : List Char} {timestamp : Nat} {parsed : ParseResult}

theorem preserves_url_iff (hparsed : urllib.urlparse base_url = some parsed) :
    PreservesUrl urllib base_url timestamp parsed ↔ plain_query (parse_qsl parsed.query true) := by
  have hiff : Preserves timestamp (parse_qsl parsed.query true)
      (parse_qsl (urllib.urlencode (prepared_params parsed.query timestamp)) true) ↔
        plain_query (parse_qsl parsed.query true) := preserves_iff parsed.query timestamp
  have hprepare : prepare_url urllib base_url timestamp = some (urllib.urlunparse
      { parsed with query := urllib.urlencode (prepared_params parsed.query timestamp) }) := by
    rw [prepare_url, hparsed]
    rfl
  have hvisible : ∀ c ∈ urllib.urlencode (prepared_params parsed.query timestamp), 32 < c.toNat ∧ c ≠ '#' :=
    urlencode_chars
  generalize urllib.urlencode (prepared_params parsed.query timestamp) = query at hiff hprepare hvisible
  have hread := urlparse_urlunparse hparsed hvisible
  rw [← hiff]
  constructor
  · rintro ⟨prepared_url, prepared, hurl, hprepared, -, -, hpreserves⟩
    obtain rfl := Option.some.inj (hurl.symm.trans hprepare)
    obtain rfl := Option.some.inj (hprepared.symm.trans hread)
    exact hpreserves
  · intro hpreserves
    exact ⟨_, _, hprepare, hread, rfl, rfl, hpreserves⟩

end python.mercury_socket

namespace rust.mercury_socket

/-- The characters that the `form_urlencoded` crate leaves as they are. -/
def byte_serialized_unchanged (b : UInt8) : Bool :=
  b == 42 || b == 45 || b == 46 || (48 ≤ b.toNat && b.toNat ≤ 57) || (65 ≤ b.toNat && b.toNat ≤ 90) || b == 95 ||
    (97 ≤ b.toNat && b.toNat ≤ 122)

theorem byte_serialized_unchanged_plain (b : UInt8) (hkeeps : byte_serialized_unchanged b = true) :
    query_byte b = true ∧ b ≠ ampersand ∧ b ≠ equals ∧ b ≠ percent ∧ b ≠ plus := by
  simp only [byte_serialized_unchanged, Bool.or_eq_true, Bool.and_eq_true, decide_eq_true_eq, beq_iff_eq,
    ← UInt8.toNat_inj, UInt8.reduceToNat] at hkeeps
  simp only [query_byte, ampersand, equals, percent, plus, Bool.and_eq_true, decide_eq_true_eq, bne_iff_ne, ne_eq,
    ← UInt8.toNat_inj, UInt8.reduceToNat]
  omega

def byte_serialize : Charset := ⟨byte_serialized_unchanged, byte_serialized_unchanged_plain⟩

/-- `append_pair` of the serializer that `query_pairs_mut` returns. -/
def append_pair (query : List Char) (pair : String × String) : List Char :=
  (if query = [] then [] else query ++ ['&']) ++ (ascii_text (encode_pair byte_serialize pair)).toList

/-- The pairs appended to the query of a URL as it is printed. -/
def append_pairs (url : String) (pairs : List (String × String)) : String :=
  let base := parts url.toList
  String.ofList (base.front ++ '?' :: pairs.foldl append_pair (base.query.getD []) ++ base.fragment.elim [] ('#' :: ·))

/-- The pairs of the query of a URL as it is printed. -/
def query_pairs (url : String) : List (String × String) :=
  parse (utf8 (String.ofList ((parts url.toList).query.getD [])))

/-- The prepared URL has all that stands in front of the query of the base URL, its host
    and path among it, and the rest of its query. -/
def PreservesUrl (crates : Crates) (base_url : String) (timestamp : Nat) (url : String) : Prop :=
  ∃ prepared_url, prepare_url { crates with append_pairs := append_pairs } base_url timestamp = .ok prepared_url ∧
    (parts prepared_url.toList).front = (parts url.toList).front ∧
    Preserves timestamp (query_pairs url) (query_pairs prepared_url)

theorem utf8_append (front back : List Char) :
    utf8 (String.ofList (front ++ back)) = utf8 (String.ofList front) ++ utf8 (String.ofList back) := by
  rw [utf8_ofList, utf8_ofList, utf8_ofList, List.flatMap_append]

theorem parse_append_pair (query : List Char) (pair : String × String) :
    parse (utf8 (String.ofList (append_pair query pair))) = parse (utf8 (String.ofList query)) ++ [pair] := by
  have hbytes := (visible_of_query_bytes (encode_pair_query_bytes byte_serialize pair)).1
  have hpair : utf8 (String.ofList (ascii_text (encode_pair byte_serialize pair)).toList) = encode_pair byte_serialize pair := by
    rw [String.ofList_toList, utf8_ascii_text hbytes]
  unfold append_pair
  split
  · rename_i hquery
    rw [List.nil_append, hpair, parse_encode_pair, hquery]
    rfl
  · have hseparator : utf8 (String.ofList ['&']) = [ampersand] := by decide
    rw [utf8_append, hpair, utf8_append, hseparator, List.append_assoc, List.singleton_append, parse_append,
      parse_encode_pair]

theorem parse_append_pairs (query : List Char) (pairs : List (String × String)) :
    parse (utf8 (String.ofList (pairs.foldl append_pair query))) = parse (utf8 (String.ofList query)) ++ pairs := by
  induction pairs generalizing query with
  | nil => rw [List.foldl_nil, List.append_nil]
  | cons pair rest ih => rw [List.foldl_cons, ih, parse_append_pair, List.append_assoc, List.singleton_append]

theorem not_mem_append_pairs {query : List Char} (hquery : '#' ∉ query) (pairs : List (String × String)) :
    '#' ∉ pairs.foldl append_pair query := by
  induction pairs generalizing query with
  | nil => exact hquery
  | cons pair rest ih =>
    refine ih fun hmem => ?_
    obtain hmem | hmem := List.mem_append.mp hmem
    · split at hmem
      · exact absurd hmem nofun
      · simp [hquery] at hmem
    · exact ((visible_of_query_bytes (encode_pair_query_bytes byte_serialize pair)).2 '#' hmem).2 rfl

/-- The prepared URL has the pairs in its query behind those of the base URL. -/
theorem parts_append_pairs (url : String) (pairs : List (String × String)) :
    (parts (append_pairs url pairs).toList).front = (parts url.toList).front ∧
      query_pairs (append_pairs url pairs) = query_pairs url ++ pairs := by
  have hbase : '#' ∉ (parts url.toList).query.getD [] := by
    cases hquery : (parts url.toList).query with
    | none => exact nofun
    | some query => exact (parts url.toList).query_free query hquery
  have hfree := not_mem_append_pairs hbase pairs
  have hprint : (append_pairs url pairs).toList = ((parts url.toList).with_query _ hfree).print := by
    rw [append_pairs, String.toList_ofList, Parts.print, List.append_assoc]
    rfl
  unfold query_pairs
  rw [hprint, parts_print]
  exact ⟨rfl, parse_append_pairs _ _⟩

/-- Pairs behind others leave these alone, and come once if none of them was there. -/
theorem preserves_append_iff (timestamp : Nat) (base : List (String × String)) :
    Preserves timestamp base (base ++ parameters timestamp) ↔ ∀ pair ∈ base, is_parameter pair.1 = false := by
  have hown : ∀ parameter ∈ parameters timestamp,
      (parameters timestamp).filter (fun pair => pair.1 = parameter.1) = [parameter] := by
    simp only [parameters, List.mem_cons, List.not_mem_nil, or_false]
    rintro parameter (rfl | rfl | rfl | rfl) <;> rfl
  have hothers : (parameters timestamp).filter (fun pair => !is_parameter pair.1) = [] := by
    rw [List.filter_eq_nil_iff]
    intro parameter hmem
    rw [is_parameter_of_mem hmem]
    exact nofun
  constructor
  · intro hpreserves pair hmem
    by_contra hparameter
    rw [Bool.not_eq_false] at hparameter
    obtain ⟨parameter, hset, hkey⟩ := (is_parameter_iff timestamp pair.1).mp hparameter
    have honce := hpreserves.set_once parameter hset
    rw [List.filter_append, hown parameter hset, List.append_left_eq_self, List.filter_eq_nil_iff] at honce
    exact honce pair hmem (decide_eq_true hkey.symm)
  · intro hnone
    refine ⟨fun parameter hset => ?_, ?_⟩
    · have hbase : base.filter (fun pair => pair.1 = parameter.1) = [] := by
        rw [List.filter_eq_nil_iff]
        intro pair hmem hkey
        have hparameter := hnone pair hmem
        rw [of_decide_eq_true hkey, is_parameter_of_mem hset] at hparameter
        exact absurd hparameter nofun
      rw [List.filter_append, hbase, hown parameter hset, List.nil_append]
    · rw [List.filter_append, hothers, List.append_nil]

variable {crates : Crates} {base_url url : String} {timestamp : Nat}

theorem preserves_url_iff (hurl : crates.parse_url base_url = .ok url) :
    PreservesUrl crates base_url timestamp url ↔ ∀ pair ∈ query_pairs url, is_parameter pair.1 = false := by
  have hprepare : prepare_url { crates with append_pairs := append_pairs } base_url timestamp =
      .ok (append_pairs url (parameters timestamp)) := by
    simp only [prepare_url, hurl]
    rfl
  obtain ⟨hfront, hpairs⟩ := parts_append_pairs url (parameters timestamp)
  rw [← preserves_append_iff timestamp, ← hpairs]
  constructor
  · rintro ⟨prepared_url, hprepared, -, hpreserves⟩
    obtain rfl := Except.ok.inj (hprepared.symm.trans hprepare)
    exact hpreserves
  · intro hpreserves
    exact ⟨_, hprepare, hfront, hpreserves⟩

end rust.mercury_socket

/-- The URLs whose other pairs are kept: for Rust those with no parameter in the query,
    for Python those whose other pairs have values and different keys. -/
theorem prepare_url_preserves_iff (crates : rust.mercury_socket.Crates) (urllib : python.urllib.Urllib)
    (base_url : String) (timestamp : Nat) :
    (∀ url, crates.parse_url base_url = .ok url →
      (rust.mercury_socket.PreservesUrl crates base_url timestamp url ↔
        ∀ pair ∈ rust.mercury_socket.query_pairs url, is_parameter pair.1 = false)) ∧
    (∀ parsed, urllib.urlparse base_url.toList = some parsed →
      (python.mercury_socket.PreservesUrl urllib base_url.toList timestamp parsed ↔
        python.mercury_socket.plain_query (python.urllib.parse_qsl parsed.query true))) :=
  ⟨fun _ hurl => rust.mercury_socket.preserves_url_iff hurl, fun _ hparsed => python.mercury_socket.preserves_url_iff hparsed⟩

section sample

/-- Parsers that take the URLs below as they are. -/
def sample_crates : rust.mercury_socket.Crates where
  from_str := fun _ => .error "expected value"
  activity_from_value := fun _ => .error "invalid type"
  parse_url := .ok
  append_pairs := fun url _ => url

def sample_urllib : python.urllib.Urllib where
  uses_netloc := fun scheme => scheme == "wss".toList
  uses_params := fun _ => false
  netloc_accepted := fun _ => true
  repr := fun s => "'" ++ s ++ "'"

theorem plain_url_preserved :
    rust.mercury_socket.PreservesUrl sample_crates "wss://h/?tag=a" 0 "wss://h/?tag=a" ∧
      python.mercury_socket.PreservesUrl sample_urllib "wss://h/?tag=a".toList 0
        ⟨⟨"wss".toList, "h".toList, "/".toList, "tag=a".toList, []⟩, []⟩ := by
  have hpairs : rust.mercury_socket.query_pairs "wss://h/?tag=a" = [("tag", "a")] := by decide
  have hquery : python.urllib.parse_qsl "tag=a".toList true = [("tag", "a")] := by decide
  have hparsed : sample_urllib.urlparse "wss://h/?tag=a".toList =
      some ⟨⟨"wss".toList, "h".toList, "/".toList, "tag=a".toList, []⟩, []⟩ := rfl
  obtain ⟨hrust, hpython⟩ := prepare_url_preserves_iff sample_crates sample_urllib "wss://h/?tag=a" 0
  constructor
  · refine (hrust _ rfl).mpr ?_
    rw [hpairs]
    decide
  · refine (hpython _ hparsed).mpr ?_
    rw [hquery]
    exact ⟨by decide, by decide⟩

def repeated_url : String := "wss://h/?tag=a&bufferStates=false&tag=b"

/-- Rust sends `bufferStates` twice for this URL, and Python a list under `tag`. -/
theorem repeated_url_not_preserved :
    ¬ rust.mercury_socket.PreservesUrl sample_crates repeated_url 0 repeated_url ∧
      ∃ parsed, sample_urllib.urlparse repeated_url.toList = some parsed ∧
        ¬ python.mercury_socket.PreservesUrl sample_urllib repeated_url.toList 0 parsed := by
  constructor
  · have hpairs : rust.mercury_socket.query_pairs repeated_url =
        [("tag", "a"), ("bufferStates", "false"), ("tag", "b")] := by decide
    rw [rust.mercury_socket.preserves_url_iff rfl, hpairs]
    decide
  · have hpairs : python.urllib.parse_qsl "tag=a&bufferStates=false&tag=b".toList true =
        [("tag", "a"), ("bufferStates", "false"), ("tag", "b")] := by decide
    refine ⟨⟨⟨"wss".toList, "h".toList, "/".toList, "tag=a&bufferStates=false&tag=b".toList, []⟩, []⟩, rfl, ?_⟩
    rw [python.mercury_socket.preserves_url_iff rfl, hpairs]
    rintro ⟨-, hnodup⟩
    exact absurd hnodup (by decide)

end sample

end webex
