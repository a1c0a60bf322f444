import WebexHandler.Go.KmsClient.Send

open transition json

namespace webex.go.kms_client

/-- What holds while requests register one at a time. An outstanding answer
    belongs to the only registered request, and a request that has not been
    posted is still registered, so it cannot be handed a foreign answer. -/
structure KmsClient.Alone (kc : KmsClient) : Prop where
  correlated : Correlated kc
  one_pending : kc.pending_requests.length ≤ 1
  one_outstanding : kc.outstanding.length ≤ 1
  answers_pending : ∀ response ∈ kc.outstanding, response.answers ∈ kc.pending_requests
  unposted : ∀ id, kc.stage id = .registered ∨ kc.stage id = .locked →
    id ∈ kc.pending_requests ∧ kc.outstanding = []
  pending_empty : ∀ id ∈ kc.pending_requests, kc.ch id = none
  unregistered : ∀ id, kc.stage id = .absent ∨ kc.stage id = .entered →
    id ∉ kc.pending_requests ∧ kc.ch id = none

namespace KmsClient

theorem set_stage_self (kc : KmsClient) (id : Nat) (stage : Stage) :
    (kc.set_stage id stage).stage id = stage := by
  simp [set_stage]

theorem set_stage_other (kc : KmsClient) {id other : Nat} (stage : Stage) (h : other ≠ id) :
    (kc.set_stage id stage).stage other = kc.stage other := by
  simp [set_stage, h]

theorem Alone.pending_eq {kc : KmsClient} (halone : kc.Alone) {id : Nat} (hid : id ∈ kc.pending_requests) :
    kc.pending_requests = [id] := by
  have hlength := halone.one_pending
  match hpending : kc.pending_requests with
  | [] => simp [hpending] at hid
  | [only] =>
    rw [hpending] at hid
    rw [List.mem_singleton.mp hid]
  | _ :: _ :: _ => simp [hpending] at hlength

theorem Alone.outstanding_cases {kc : KmsClient} (halone : kc.Alone) :
    kc.outstanding = [] ∨
      ∃ response, kc.outstanding = [response] ∧ kc.pending_requests = [response.answers] ∧
        kc.ch response.answers = none := by
  have hlength := halone.one_outstanding
  match houtstanding : kc.outstanding with
  | [] => exact .inl rfl
  | [response] =>
    have hmem := halone.answers_pending response (by simp [houtstanding])
    exact .inr ⟨response, rfl, halone.pending_eq hmem, halone.pending_empty _ hmem⟩
  | _ :: _ :: _ => simp [houtstanding] at hlength

/-- A change of one call's stage keeps the invariant unless it claims that a
    request is registered or has not begun. -/
theorem Alone.set_stage {kc : KmsClient} (halone : kc.Alone) (id : Nat) {stage : Stage}
    (hunposted : stage = .registered ∨ stage = .locked → id ∈ kc.pending_requests ∧ kc.outstanding = [])
    (hunregistered : stage = .absent ∨ stage = .entered → id ∉ kc.pending_requests ∧ kc.ch id = none) :
    (kc.set_stage id stage).Alone where
  correlated := halone.correlated
  one_pending := halone.one_pending
  one_outstanding := halone.one_outstanding
  answers_pending := halone.answers_pending
  unposted := by
    intro other hother
    by_cases h : other = id
    · subst h
      rw [set_stage_self] at hother
      exact hunposted hother
    · rw [set_stage_other _ _ h] at hother
      exact halone.unposted other hother
  pending_empty := halone.pending_empty
  unregistered := by
    intro other hother
    by_cases h : other = id
    · subst h
      rw [set_stage_self] at hother
      exact hunregistered hother
    · rw [set_stage_other _ _ h] at hother
      exact halone.unregistered other hother

/-- Delivering the only outstanding answer hands it to the only registered
    request, the one it answers. -/
theorem Alone.resolve {kc next : KmsClient} (halone : kc.Alone) {response : Response} {choice : Nat}
    (houtstanding : kc.outstanding = [response]) (hpending : kc.pending_requests = [response.answers])
    (hch : kc.ch response.answers = none)
    (hresolve : KmsClient.resolve { kc with outstanding := [] } response choice = some next) :
    next.Alone := by
  simp only [KmsClient.resolve, hpending, List.cons_ne_nil, if_false, List.mem_singleton] at hresolve
  by_cases hchoice : choice = response.answers
  · subst hchoice
    simp only [if_true, hch, Option.some.injEq] at hresolve
    subst hresolve
    have hstarted : ∀ id, kc.stage id = .absent ∨ kc.stage id = .entered → id ≠ response.answers := by
      intro id hid heq
      exact (halone.unregistered id hid).1 (by simp [hpending, heq])
    refine ⟨?_, by simp, by simp, by simp, ?_, by simp, ?_⟩
    · intro other receiver hmem
      simp only [List.mem_append, List.mem_singleton, Prod.mk.injEq] at hmem
      obtain hmem | ⟨rfl, rfl⟩ := hmem
      · exact halone.correlated other receiver hmem
      · rfl
    · intro id hid
      have hempty := (halone.unposted id hid).2
      simp [houtstanding] at hempty
    · intro id hid
      have hne := hstarted id hid
      simpa [hne] using (halone.unregistered id hid).2
  · simp [hchoice] at hresolve

theorem Alone.handle_kms_message {kc next : KmsClient} (halone : kc.Alone) {data : Value}
    {choices : List Nat} (hhandle : kc.handle_kms_message data choices = some next) : next.Alone := by
  simp only [KmsClient.handle_kms_message] at hhandle
  generalize Value.strings (kms_messages data) = texts at hhandle
  split at hhandle
  · rename_i hbatch
    obtain hnone | ⟨response, hone, hpending, hch⟩ := halone.outstanding_cases
    · simp only [hnone, List.take_nil, List.drop_nil] at hhandle
      cases choices with
      | nil =>
        simp only [handle_responses, Option.some.injEq] at hhandle
        subst hhandle
        simpa [← hnone] using halone
      | cons => simp [handle_responses] at hhandle
    · cases texts with
      | nil =>
        simp only [List.length_nil, List.take_zero, List.drop_zero] at hhandle
        cases choices with
        | nil =>
          simp only [handle_responses, Option.some.injEq] at hhandle
          exact hhandle ▸ halone
        | cons => simp [handle_responses] at hhandle
      | cons text rest =>
        simp only [hone, List.length_cons, List.take_succ_cons, List.take_nil, List.drop_succ_cons,
          List.drop_nil] at hhandle
        match choices with
        | [] => simp [handle_responses] at hhandle
        | choice :: more =>
          simp only [handle_responses, Option.bind_eq_some_iff] at hhandle
          obtain ⟨after, hresolve, hrest⟩ := hhandle
          have hafter := halone.resolve hone hpending hch hresolve
          cases more with
          | nil =>
            simp only [handle_responses, Option.some.injEq] at hrest
            exact hrest ▸ hafter
          | cons => simp [handle_responses] at hrest
  · cases hhandle

end KmsClient

theorem correlation_step_alone {kc next : KmsClient} {label : Label} (halone : kc.Alone)
    (hcond : RegistersAlone kc label) (hstep : kc.step label = some next) : next.Alone := by
  cases label with
  | call id =>
    simp only [KmsClient.step, Option.ite_none_right_eq_some, Option.some.injEq] at hstep
    obtain ⟨hstage, rfl⟩ := hstep
    exact halone.set_stage id (by simp) (fun _ => halone.unregistered id (.inl hstage))
  | register id =>
    simp only [KmsClient.step, Option.ite_none_right_eq_some] at hstep
    obtain ⟨hstage, hstep⟩ := hstep
    simp only [RegistersAlone] at hcond
    have hquiet : kc.outstanding = [] := by
      obtain h | ⟨response, -, hpending, -⟩ := halone.outstanding_cases
      · exact h
      · simp [hcond] at hpending
    rw [if_neg (by simp [hcond, MAX_PENDING])] at hstep
    simp only [hcond, List.nil_append, Option.some.injEq] at hstep
    subst hstep
    have hch := (halone.unregistered id (.inr hstage)).2
    refine ⟨halone.correlated, by simp, halone.one_outstanding, by simp [KmsClient.set_stage, hquiet], ?_,
      by simpa [KmsClient.set_stage] using hch, ?_⟩
    · intro other hother
      by_cases h : other = id
      · simp [h, KmsClient.set_stage, hquiet]
      · have hstill : kc.stage other = .registered ∨ kc.stage other = .locked := by
          simpa [KmsClient.set_stage, h] using hother
        have := (halone.unposted other hstill).1
        simp [hcond] at this
    · intro other hother
      by_cases h : other = id
      · simp [h, KmsClient.set_stage] at hother
      · have hstill : kc.stage other = .absent ∨ kc.stage other = .entered := by
          simpa [KmsClient.set_stage, h] using hother
        exact ⟨by simpa using h, (halone.unregistered other hstill).2⟩
  | lock id =>
    simp only [KmsClient.step, Option.ite_none_right_eq_some, Option.some.injEq] at hstep
    obtain ⟨⟨hstage, -⟩, rfl⟩ := hstep
    have h : (kc.set_stage id .locked).Alone :=
      halone.set_stage id (fun _ => halone.unposted id (.inl hstage)) (by simp)
    exact ⟨h.correlated, h.one_pending, h.one_outstanding, h.answers_pending, h.unposted,
      h.pending_empty, h.unregistered⟩
  | post id answer =>
    simp only [KmsClient.step, Option.ite_none_right_eq_some, Option.some.injEq] at hstep
    obtain ⟨hstage, rfl⟩ := hstep
    obtain ⟨hmem, hquiet⟩ := halone.unposted id (.inr hstage)
    have hpending := halone.pending_eq hmem
    have h : (kc.set_stage id .posted).Alone := halone.set_stage id (by simp) (by simp)
    refine ⟨h.correlated, h.one_pending, by simp [hquiet], by simp [hquiet, KmsClient.set_stage, hmem], ?_,
      h.pending_empty, h.unregistered⟩
    intro other hother
    have hother' : other ∈ kc.pending_requests := (h.unposted other hother).1
    rw [hpending, List.mem_singleton] at hother'
    simp [hother', KmsClient.set_stage] at hother
  | http_ok id =>
    simp only [KmsClient.step, Option.ite_none_right_eq_some, Option.some.injEq] at hstep
    obtain ⟨-, rfl⟩ := hstep
    exact halone.set_stage id (by simp) (by simp)
  | deliver data choices => exact halone.handle_kms_message hstep
  | receive id =>
    simp only [KmsClient.step] at hstep
    split at hstep
    · obtain rfl := (Option.some.inj hstep).symm
      rename_i response _ _
      have h : (kc.set_stage id (.returned response)).Alone := halone.set_stage id (by simp) (by simp)
      exact ⟨h.correlated, h.one_pending, h.one_outstanding, h.answers_pending, h.unposted,
        h.pending_empty, h.unregistered⟩
    · cases hstep

/-- As long as no request registers beside another, every response reaches the
    call whose POST it answers, for any number of calls and any iteration order
    of the pending map. -/
theorem correlated_of_registers_alone {kc : KmsClient} (hreach : correlation.Reachable RegistersAlone kc) :
    Correlated kc := by
  have halone : kc.Alone := hreach.invariant
    (by refine ⟨?_, ?_, ?_, ?_, ?_, ?_, ?_⟩ <;> simp [correlation, Correlated])
    (fun _ _ _ _ halone hcond hstep => correlation_step_alone halone hcond hstep)
  exact halone.correlated

/-- A Mercury event that carries one KMS message. -/
def single_message (text : String) : Value := .object [("kmsMessages", .array [.string text])]

/-- Two calls one after the other: the second registers after the first has its
    answer. -/
def sequential_schedule : List Label :=
  [.call 0, .register 0, .lock 0, .post 0 "answer-0", .http_ok 0, .deliver (single_message "answer-0") [0],
    .receive 0, .call 1, .register 1, .lock 1, .post 1 "answer-1", .http_ok 1,
    .deliver (single_message "answer-1") [1], .receive 1]

/-- Two calls that overlap: both are registered when the answer to the first
    POST arrives, and the map yields the second one. -/
def overlapping_schedule : List Label :=
  [.call 0, .register 0, .call 1, .register 1, .lock 0, .post 0 "answer-0", .http_ok 0,
    .deliver (single_message "answer-0") [1]]

theorem sequential_calls_correlated :
    ∃ kc, correlation.run correlation.init sequential_schedule = some kc ∧ kc.handled.length = 2 ∧
      Correlated kc := by
  refine ⟨_, rfl, rfl, correlated_of_registers_alone (Machine.Reachable.run .init sequential_schedule ?_ rfl)⟩
  repeat' first
    | exact trivial
    | refine ⟨trivial, fun next hnext => ?_⟩; obtain rfl := Option.some.inj hnext
    | refine ⟨rfl, fun next hnext => ?_⟩; obtain rfl := Option.some.inj hnext

/-- With two calls registered at once, the answer to the first POST is handed to
    the second call. -/
theorem overlapping_calls_miscorrelated :
    ∃ kc, correlation.Reachable Machine.Always kc ∧ kc.ch 1 = some ⟨0, "answer-0"⟩ ∧ ¬ Correlated kc := by
  refine ⟨_, Machine.Reachable.run .init overlapping_schedule (Machine.meets_always _ _) rfl, rfl, ?_⟩
  intro hcorrelated
  exact absurd (hcorrelated ⟨0, "answer-0"⟩ (some 1) (List.mem_singleton.mpr rfl)) (by decide)

end webex.go.kms_client
