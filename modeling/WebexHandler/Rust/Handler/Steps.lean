import WebexHandler.Rust.Handler.Environment

open interaction json transition

namespace webex.rust.handler

open kms_client (Mailbox)

/-- Everything an operation of a task can do: its result, the environment it leaves
    behind, and the tasks it starts. -/
inductive Performed (crates : Crates) (tid : Nat) (env : Env) :
    (op : Op) → Choice → Res op → Env → List (Task Op Res) → Prop
  | acquire (cell : Cell) (hfree : env.owner cell = none) :
    Performed crates tid env (.acquire cell) .done (env.content cell) (env.set_owner cell (some tid)) []
  | release (cell : Cell) (content : Content cell) :
    Performed crates tid env (.release cell content) .done () ((env.store cell content).set_owner cell none) []
  | fetch (req : FetchRequest) (answer : Except String FetchResponse) :
    Performed crates tid env (.fetch req) (.fetched answer) answer env []
  | kms (mailbox : Nat) (op : kms_client.Op) (choice : Choice) (r : kms_client.Res op)
    (mailboxes : Nat → Mailbox)
    (hkms : env.perform_kms mailbox op choice = some (r, { env with mailboxes := mailboxes })) :
    Performed crates tid env (.kms mailbox op) choice r { env with mailboxes := mailboxes } []
  | new_mailbox : Performed crates tid env .new_mailbox .done env.next_mailbox
      { env with next_mailbox := env.next_mailbox + 1 } []
  | handle_kms_message (mailbox : Nat) (data : Value) :
    Performed crates tid env (.handle_kms_message mailbox data) .done ()
      (env.set_mailbox mailbox ((env.mailboxes mailbox).handle_kms_message data)) []
  | open_socket (base_url prepared_url token : String) (result : Except WebexError Unit) :
    Performed crates tid env (.open_socket base_url prepared_url token) (.opened result) result env []
  | mercury_disconnect : Performed crates tid env .mercury_disconnect .done () env []
  | mercury_connected (value : Bool) : Performed crates tid env .mercury_connected (.flag value) value env []
  | mercury_attempts (value : Nat) : Performed crates tid env .mercury_attempts (.count value) value env []
  | already_started (owner : Nat) (hstarted : env.event_loop = some owner) :
    Performed crates tid env .start_event_loop .done () env []
  | start_event_loop (hnone : env.event_loop = none) :
    Performed crates tid env .start_event_loop .done ()
      { env with event_loop := some env.next_task, next_task := env.next_task + 1 }
      [Task.loop (as_task (event_loop crates))]
  | next_event (event : MercuryEvent) (hemitted : emitted_by_socket event = true) :
    Performed crates tid env .next_event (.event event) (some event) env []
  | tick : Performed crates tid env .next_event .tick none env []
  | spawn_activity (activity : MercuryActivity) :
    Performed crates tid env (.spawn_activity activity) .done ()
      { env with
        next_task := env.next_task + 1
        deliveries := env.deliveries ++ [⟨env.next_task, activity, env.time⟩] }
      [{ rest := as_task (activity_task crates activity) }]
  | now : Performed crates tid env .now .done env.time env []
  | send (event : HandlerEvent) (hroom : env.queue.length < env.capacity) :
    Performed crates tid env (.send event) .done ()
      { env with queue := env.queue ++ [event], sent := env.sent ++ [(tid, event)] } []
  | try_send (event : HandlerEvent) (hroom : env.queue.length < env.capacity) :
    Performed crates tid env (.try_send event) .done ()
      { env with queue := env.queue ++ [event], sent := env.sent ++ [(tid, event)] } []
  | dropped (event : HandlerEvent) (hfull : env.capacity ≤ env.queue.length) :
    Performed crates tid env (.try_send event) .done () env []

variable {crates : Crates}

/-- A `KmsClient` changes nothing but its pending list. -/
theorem perform_kms_frame {env env' : Env} {mailbox : Nat} {op : kms_client.Op} {choice : Choice}
    {r : kms_client.Res op} (hkms : env.perform_kms mailbox op choice = some (r, env')) :
    ∃ mailboxes, env' = { env with mailboxes := mailboxes } := by
  unfold Env.perform_kms at hkms
  split at hkms
  case h_8 =>
    simp only [Option.map_eq_some_iff] at hkms
    obtain ⟨_, -, -, rfl⟩ := hkms
    exact ⟨_, rfl⟩
  case h_9 =>
    simp only [Option.ite_none_right_eq_some, Option.some.injEq] at hkms
    obtain ⟨-, -, rfl⟩ := hkms
    exact ⟨_, rfl⟩
  case h_10 =>
    simp only [Option.ite_none_right_eq_some, Option.some.injEq] at hkms
    obtain ⟨-, -, rfl⟩ := hkms
    exact ⟨_, rfl⟩
  case h_11 => simp at hkms
  all_goals
    obtain ⟨-, rfl⟩ := Prod.mk.inj (Option.some.inj hkms)
    exact ⟨_, rfl⟩

theorem perform_performed {tid : Nat} {op : Op} {choice : Choice} {env env' : Env} {r : Res op}
    {spawned : List (Task Op Res)} (hperform : perform crates tid op choice env = some (r, env', spawned)) :
    Performed crates tid env op choice r env' spawned := by
  unfold perform at hperform
  split at hperform
  · simp only [Option.ite_none_right_eq_some, Option.some.injEq] at hperform
    obtain ⟨hfree, rfl, rfl, rfl⟩ := hperform
    exact .acquire _ hfree
  · simp only [Option.some.injEq] at hperform
    obtain ⟨-, rfl, rfl⟩ := hperform
    exact .release _ _
  · simp only [Option.some.injEq] at hperform
    obtain ⟨rfl, rfl, rfl⟩ := hperform
    exact .fetch _ _
  · simp only [Option.map_eq_some_iff] at hperform
    obtain ⟨⟨r, env'⟩, hkms, rfl, rfl, rfl⟩ := hperform
    obtain ⟨mailboxes, rfl⟩ := perform_kms_frame hkms
    exact .kms _ _ _ _ mailboxes hkms
  · simp only [Option.some.injEq] at hperform
    obtain ⟨rfl, rfl, rfl⟩ := hperform
    exact .new_mailbox
  · simp only [Option.some.injEq] at hperform
    obtain ⟨-, rfl, rfl⟩ := hperform
    exact .handle_kms_message _ _
  · simp only [Option.some.injEq] at hperform
    obtain ⟨rfl, rfl, rfl⟩ := hperform
    exact .open_socket _ _ _ _
  · simp only [Option.some.injEq] at hperform
    obtain ⟨-, rfl, rfl⟩ := hperform
    exact .mercury_disconnect
  · simp only [Option.some.injEq] at hperform
    obtain ⟨rfl, rfl, rfl⟩ := hperform
    exact .mercury_connected _
  · simp only [Option.some.injEq] at hperform
    obtain ⟨rfl, rfl, rfl⟩ := hperform
    exact .mercury_attempts _
  · split at hperform
    · rename_i owner hstarted
      simp only [Option.some.injEq] at hperform
      obtain ⟨-, rfl, rfl⟩ := hperform
      exact .already_started owner hstarted
    · rename_i hnone
      simp only [Option.some.injEq] at hperform
      obtain ⟨-, rfl, rfl⟩ := hperform
      exact .start_event_loop hnone
  · simp only [Option.ite_none_right_eq_some, Option.some.injEq] at hperform
    obtain ⟨hemitted, rfl, rfl, rfl⟩ := hperform
    exact .next_event _ hemitted
  · simp only [Option.some.injEq] at hperform
    obtain ⟨rfl, rfl, rfl⟩ := hperform
    exact .tick
  · simp only [Option.some.injEq] at hperform
    obtain ⟨-, rfl, rfl⟩ := hperform
    exact .spawn_activity _
  · simp only [Option.some.injEq] at hperform
    obtain ⟨rfl, rfl, rfl⟩ := hperform
    exact .now
  · simp only [Option.ite_none_right_eq_some, Option.some.injEq] at hperform
    obtain ⟨hroom, -, rfl, rfl⟩ := hperform
    exact .send _ hroom
  · split at hperform
    · rename_i hroom
      simp only [Option.some.injEq] at hperform
      obtain ⟨-, rfl, rfl⟩ := hperform
      exact .try_send _ hroom
    · rename_i hfull
      simp only [Option.some.injEq] at hperform
      obtain ⟨-, rfl, rfl⟩ := hperform
      exact .dropped _ (by omega)
  · simp at hperform

end webex.rust.handler
