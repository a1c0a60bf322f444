import WebexHandler.Registration.Protocol
import WebexHandler.Rust.DeviceManager

open interaction transition

namespace webex.registration

/-- A request of a port that keeps its URLs as values of a type of its own. -/
structure FetchRequest (Url : Type) where
  url : Url
  method : String
  headers : List (String × String)
  body : Option String

/-- A response as the HTTP function of every port gives it. -/
abbrev FetchResponse : Type := rust.FetchResponse

abbrev Fetched {Url : Type} (_ : FetchRequest Url) : Type := Except String FetchResponse

def bearer (token : String) : String × String := ("Authorization", "Bearer " ++ token)

def content_type : String × String := ("Content-Type", "application/json")

/-- How a port words the requests of the protocol, what it reads in their answers, and how its
    state and its errors stand for those of the protocol. -/
structure Dialect (Op σ ε : Type) where
  request : Request → Op
  read : (req : Request) → Except String FetchResponse → Answer req
  manager : σ → Manager
  rejection : ε → Rejection

section dialect

variable {Op σ ε α α' : Type}

def Dialect.sync (dialect : Dialect Op σ ε) : Sync Op (fun _ => Except String FetchResponse) Request Answer where
  ops op req := op = dialect.request req
  results _ answer req read := read = dialect.read req answer

/-- The states of a port and of the protocol. -/
def Dialect.Stands (dialect : Dialect Op σ ε) (state : σ) (self : Manager) : Prop := self = dialect.manager state

/-- The outcomes of a call of the port and of the protocol. -/
abbrev Dialect.Ends (dialect : Dialect Op σ ε) (describe : α → α') : Except ε α → Except Rejection α' → Prop :=
  SameOutcome (fun value value' => value' = describe value) (fun e e' => e' = dialect.rejection e)

/-- The outcomes of a call that does not fail. -/
abbrev Dialect.Completes (_ : Dialect Op σ ε) (values : α → α' → Prop) : Except ε α → Except Rejection α' → Prop :=
  SameOutcome values fun _ _ => False

/-- A method of a port does what a method of the protocol does. -/
abbrev Dialect.Follows (dialect : Dialect Op σ ε) (describe : α → α')
    (m : Method Op (fun _ => Except String FetchResponse) σ ε α) (m' : Dm α') : Prop :=
  m.InStep dialect.sync dialect.Stands (dialect.Ends describe) m'

end dialect

/-- The body of a response to a request that the server has carried out. -/
def judge (code : Nat → Option Nat) (answer : Except String FetchResponse) : Except Rejection rust.Bytes :=
  match answer with
  | .error _ => .error (.refused none)
  | .ok response =>
    if response.status = 401 then .error .unauthorized
    else if response.ok = false then .error (.refused (code response.status))
    else .ok response.body

/-- A rejected creation leaves the device as it is. -/
def Created.of (judged : Except Rejection rust.Bytes) (parse : rust.Bytes → Created) : Created :=
  match judged with
  | .error e => { outcome := .error e }
  | .ok body => parse body

section calls

variable {Op σ ε α α' : Type} {dialect : Dialect Op σ ε}
  {outcomes : Except ε α → Except Rejection α' → Prop}

/-- The first steps after the answer to a request are the same in every port. -/
theorem inStep_judged (dialect : Dialect Op σ ε) (code : Nat → Option Nat) {answer : Except String FetchResponse} {failed : String → ε}
    {unauthorized : ε} {refused : FetchResponse → ε}
    {rest : FetchResponse → Method Op (fun _ => Except String FetchResponse) σ ε α} (rest' : Except Rejection rust.Bytes → Dm α')
    (hfailed : ∀ e, dialect.rejection (failed e) = .refused none) (hunauthorized : dialect.rejection unauthorized = .unauthorized)
    (hrefused : ∀ response, dialect.rejection (refused response) = .refused (code response.status))
    (herror : ∀ e, (throw e : Method Op (fun _ => Except String FetchResponse) σ ε α).InStep dialect.sync dialect.Stands outcomes
      (rest' (.error (dialect.rejection e))))
    (hrest : ∀ response, answer = .ok response →
      (rest response).InStep dialect.sync dialect.Stands outcomes (rest' (.ok response.body))) :
    (Method.ofExcept (answer.mapError failed) >>= fun response =>
      Method.reject (response.status == 401) unauthorized >>= fun _ =>
      Method.reject (!response.ok) (refused response) >>= fun _ => rest response).InStep dialect.sync dialect.Stands outcomes
        (rest' (judge code answer)) := by
  cases answer with
  | error e =>
    have hstep := herror (failed e)
    rw [hfailed] at hstep
    exact hstep
  | ok response =>
    by_cases hstatus : response.status = 401
    · have hstep := herror unauthorized
      have hjudged : judge code (.ok response) = .error .unauthorized := by
        rw [judge, if_pos hstatus]
      rw [hunauthorized] at hstep
      rw [hjudged]
      show (Method.reject (response.status == 401) unauthorized >>= _).InStep _ _ _ _
      rw [beq_iff_eq.mpr hstatus]
      exact hstep
    · show (Method.reject (response.status == 401) unauthorized >>= _).InStep _ _ _ _
      rw [beq_eq_false_iff_ne.mpr hstatus]
      show (Method.reject (!response.ok) (refused response) >>= _).InStep _ _ _ _
      cases hok : response.ok with
      | false =>
        have hstep := herror (refused response)
        have hjudged : judge code (.ok response) = .error (.refused (code response.status)) := by
          rw [judge, if_neg hstatus, if_pos hok]
        rw [hrefused] at hstep
        rw [hjudged]
        exact hstep
      | true =>
        have hjudged : judge code (.ok response) = .ok response.body := by
          rw [judge, if_neg hstatus, if_neg (by simp [hok])]
        rw [hjudged]
        exact hrest response rfl

theorem inStep_retry {describe : α → Registration} {m : Method Op (fun _ => Except String FetchResponse) σ ε α}
    {token : String} (hm : dialect.Follows describe m (reap token >>= fun _ => create token)) {excessive : Bool} {e : ε}
    (hexcessive : excessive = true ↔ dialect.rejection e = .refused (some 403)) :
    dialect.Follows describe (if excessive then m else throw e) (retry token (dialect.rejection e)) := by
  by_cases hcap : dialect.rejection e = .refused (some 403)
  · rw [if_pos (hexcessive.mpr hcap), retry, if_pos hcap]
    exact hm
  · rw [if_neg fun hmarked => hcap (hexcessive.mp hmarked), retry, if_neg hcap]
    exact Method.inStep_throw (.error rfl)

end calls

end webex.registration
