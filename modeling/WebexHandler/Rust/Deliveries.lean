import WebexHandler.Rust.CardInputs
import WebexHandler.Rust.Jwe.RoundTrip
import WebexHandler.Rust.KmsClient.Breaker

open interaction json person_id

namespace webex.rust.decryptor

open handler (is_message_activity message_event)
open kms_client (KmsClient)
open jwe (Ciphers Iv Key Reparses encrypt_a256kw_a256gcm encrypt_dir_a256gcm protected_header)

/-- A token that one of the two ways of encrypting makes of a text. -/
inductive Seals (jwe_crates : jwe.Crates) (key : Key) (text token : String) : Prop
  | dir (kid : String) (iv : Iv) (hheader : Reparses jwe_crates (protected_header "dir" kid))
    (htoken : encrypt_dir_a256gcm jwe_crates (utf8 text) key kid iv = .ok token)
  | a256kw (cek : Key) (iv : Iv) (hheader : Reparses jwe_crates (protected_header "A256KW" ""))
    (htoken : encrypt_a256kw_a256gcm jwe_crates (utf8 text) key cek iv = .ok token)

/-- A text as it is on the wire: sealed, unless there is none. -/
inductive Sealed (jwe_crates : jwe.Crates) (key : Key) : Option String → Option String → Prop
  | absent : Sealed jwe_crates key none none
  | empty : Sealed jwe_crates key (some "") (some "")
  | sealed {text token : String} (hseals : Seals jwe_crates key text token) :
    Sealed jwe_crates key (some text) (some token)

/-- The activity of a message whose texts are sealed with a key. -/
structure SealedMessage (jwe_crates : jwe.Crates) (key : Key) (message activity : MercuryActivity) :
    Prop where
  route : is_message_activity activity = true
  display_name : Sealed jwe_crates key message.object.display_name activity.object.display_name
  content : Sealed jwe_crates key message.object.content activity.object.content
  inputs : activity.object.inputs_encrypted = none
  rest : message = { activity with object := { activity.object with
    display_name := message.object.display_name
    content := message.object.content } }

/-- The outcomes of the tasks of activities that get the guard on the client one after
    another. A panic ends the task of its own activity only. -/
def handle_activities (crates : handler.Crates) (jwe_crates : jwe.Crates) (bot_person_id : Option String) :
    List MercuryActivity → Task (List (Except Unit Unit))
  | [] => return []
  | activity :: rest => do
    let outcome ← (handle_activity_static crates jwe_crates activity bot_person_id).attempt
    let outcomes ← handle_activities crates jwe_crates bot_person_id rest
    return outcome :: outcomes

/-- The events of messages in the clear, one for each that is not by the bot. -/
def message_events (crates : handler.Crates) (bot_person_id : Option String) (messages : List MercuryActivity) :
    List HandlerEvent :=
  messages.filterMap fun message => message_event crates message.verb bot_person_id (.ok message)

section messages

variable {jwe_crates : jwe.Crates} {key : Key} {text token : String} {plain field : Option String}

/-- What either way of encrypting makes of a text is a token that gives it back. -/
theorem Seals.opens (hciphers : Ciphers jwe_crates) (hseals : Seals jwe_crates key text token) :
    token ≠ "" ∧ jwe.decrypt_message_jwe jwe_crates token key = .ok (utf8 text) := by
  obtain ⟨parts, hparts, hmessage⟩ :
      ∃ parts, jwe.parse_jwe_compact jwe_crates token = .ok parts ∧
        jwe.decrypt_message_jwe jwe_crates token key = .ok (utf8 text) := by
    cases hseals with
    | dir kid iv hheader htoken => exact jwe.opens_dir hciphers hheader htoken
    | a256kw cek iv hheader htoken => exact jwe.opens_a256kw hciphers hheader htoken
  refine ⟨?_, hmessage⟩
  rintro rfl
  exact absurd (jwe.parts_of_dots hparts) (by decide)

theorem Sealed.decrypt_text (hciphers : Ciphers jwe_crates) (hsealed : Sealed jwe_crates key plain field) :
    decrypt_text jwe_crates key.1 field = .ok plain := by
  cases hsealed with
  | absent => rfl
  | empty => simp [decryptor.decrypt_text, decrypt_field]
  | sealed hseals =>
    obtain ⟨hne, hopens⟩ := hseals.opens hciphers
    simp only [decryptor.decrypt_text, decrypt_field, if_neg hne, decrypt_message, key.2, dite_true, hopens, from_utf8_utf8]
    rfl

theorem SealedMessage.decrypt_fields (hciphers : Ciphers jwe_crates) {message activity : MercuryActivity}
    (hsealed : SealedMessage jwe_crates key message activity) :
    decrypt_fields jwe_crates key.1 activity = .ok message := by
  have hinputs : decrypt_inputs jwe_crates key.1 activity.object = .ok activity.object.inputs := by
    rw [decrypt_inputs, hsealed.inputs]
    rfl
  rw [decryptor.decrypt_fields, hsealed.display_name.decrypt_text hciphers, hsealed.content.decrypt_text hciphers, hinputs]
  exact congrArg Except.ok hsealed.rest.symm

end messages

section conversation

variable (crates : handler.Crates) (jwe_crates : jwe.Crates) (bot_person_id : Option String) {Env : Type}
  (answer : (op : Op) → Env → Res op × Env)

/-- Sealed messages, each with its key found when its turn comes. -/
inductive Arrives : KmsClient → Env → List MercuryActivity → List MercuryActivity → Prop
  | nil {kms : KmsClient} {env : Env} : Arrives kms env [] []
  | cons {kms : KmsClient} {env : Env} {message activity : MercuryActivity} {messages activities : List MercuryActivity} (key : Key)
    (hkey : KeyFound crates answer activity kms env key.1) (hsealed : SealedMessage jwe_crates key message activity)
    (hrest : Arrives ((handle_activity_static crates jwe_crates activity bot_person_id kms).exec answer env).1.2
      ((handle_activity_static crates jwe_crates activity bot_person_id kms).exec answer env).2 messages activities) :
    Arrives kms env (message :: messages) (activity :: activities)

variable {crates jwe_crates bot_person_id answer} {kms : KmsClient} {env : Env} {message activity : MercuryActivity} {key : Key}

theorem handle_message (hmessage : is_message_activity activity = true) :
    handle_activity_static crates jwe_crates activity bot_person_id = (do
      let decrypted ← decrypt crates jwe_crates activity
      send_event (message_event crates activity.verb bot_person_id decrypted)) := by
  rw [handle_activity_static, if_pos hmessage]

theorem exec_decrypt_sealed (hciphers : Ciphers jwe_crates) {url : String} (hurl : key_url activity = some url) {kms' : KmsClient}
    {env' : Env} (hget : (kms_client.get_key crates.kms url kms).exec (kms_answer answer) env = ((.ok key.1, kms'), env'))
    (hsealed : SealedMessage jwe_crates key message activity) :
    (decrypt crates jwe_crates activity kms).exec answer env = ((.ok (.ok message), kms'), env') := by
  rw [exec_decrypt, exec_decrypt_activity hurl, hget]
  simp only [hsealed.decrypt_fields hciphers]
  rfl

/-- A sealed message makes one event of its texts, or none if it is by the bot itself. Only the
    search for its key changes the client. -/
theorem handle_sealed (hciphers : Ciphers jwe_crates) {url : String} (hurl : key_url activity = some url) {kms' : KmsClient}
    {env' : Env} (hget : (kms_client.get_key crates.kms url kms).exec (kms_answer answer) env = ((.ok key.1, kms'), env'))
    (hsealed : SealedMessage jwe_crates key message activity) : ∃ env'',
    (handle_activity_static crates jwe_crates activity bot_person_id kms).exec answer env = ((.ok (), kms'), env'') ∧
      events ((handle_activity_static crates jwe_crates activity bot_person_id kms).trace answer env) =
        (message_event crates message.verb bot_person_id (.ok message)).toList := by
  have hdecrypt := exec_decrypt_sealed hciphers hurl hget hsealed
  have hverb : message.verb = activity.verb := by
    rw [hsealed.rest]
  rw [handle_message hsealed.route, Method.exec_bind_ok hdecrypt, Method.trace_bind_ok hdecrypt, events_append,
    events_decrypt, List.nil_append, hverb]
  cases message_event crates activity.verb bot_person_id (.ok message) with
  | none => exact ⟨_, rfl, rfl⟩
  | some event => exact ⟨_, rfl, rfl⟩

/-- With their keys in the cache, sealed messages may come in any environment. -/
theorem arrives_of_cached (hciphers : Ciphers jwe_crates) {messages activities : List MercuryActivity}
    (hcached : List.Forall₂ (fun message activity => ∃ (url : String) (key : Key), key_url activity = some url ∧
      kms.key_cache.lookup url = some key.1 ∧ SealedMessage jwe_crates key message activity) messages activities) :
    Arrives crates jwe_crates bot_person_id answer kms env messages activities := by
  induction hcached generalizing env with
  | nil => exact .nil
  | @cons message activity messages activities hhead hrest ih =>
    obtain ⟨url, key, hurl, hlookup, hsealed⟩ := hhead
    have hget : (kms_client.get_key crates.kms url kms).exec (kms_answer answer) env = ((.ok key.1, kms), env) := by
      rw [kms_client.get_key_of_cached hlookup]
      rfl
    obtain ⟨env', hexec, -⟩ :=
      @handle_sealed crates jwe_crates bot_person_id _ answer _ _ _ _ _ hciphers _ hurl _ _ hget hsealed
    refine .cons key ⟨url, hurl, by rw [hget]⟩ hsealed ?_
    rw [hexec]
    exact ih

theorem message_events_cons (messages : List MercuryActivity) :
    message_events crates bot_person_id (message :: messages) =
      (message_event crates message.verb bot_person_id (.ok message)).toList ++ message_events crates bot_person_id messages := by
  unfold message_events
  rw [List.filterMap_cons]
  cases message_event crates message.verb bot_person_id (.ok message) with
  | none => rfl
  | some event => rfl

/-- Sealed messages are delivered in their order, each as one event with its texts in the clear,
    but for those of the bot itself, and no task panics. -/
theorem conversation_delivered (hciphers : Ciphers jwe_crates) {messages activities : List MercuryActivity}
    (harrives : Arrives crates jwe_crates bot_person_id answer kms env messages activities) :
    ((handle_activities crates jwe_crates bot_person_id activities kms).exec answer env).1.1 =
        .ok (List.replicate messages.length (.ok ())) ∧
      events ((handle_activities crates jwe_crates bot_person_id activities kms).trace answer env) =
        message_events crates bot_person_id messages := by
  induction harrives with
  | nil => exact ⟨rfl, rfl⟩
  | @cons kms env message activity messages activities key hkey hsealed hrest ih =>
    obtain ⟨url, hurl, hget⟩ := hkey
    generalize hfound : (kms_client.get_key crates.kms url kms).exec (kms_answer answer) env = found at hget
    obtain ⟨⟨_, kms'⟩, env'⟩ := found
    obtain rfl := hget
    obtain ⟨env', hexec, hevents⟩ :=
      @handle_sealed crates jwe_crates bot_person_id _ answer _ _ _ _ _ hciphers _ hurl _ _ hfound hsealed
    rw [hexec] at ih
    have hattempt := Method.exec_attempt hexec
    generalize hout : (handle_activities crates jwe_crates bot_person_id activities kms').exec answer env' = out at ih
    obtain ⟨⟨outcomes, kms''⟩, env''⟩ := out
    obtain rfl : outcomes = .ok (List.replicate messages.length (.ok ())) := ih.1
    rw [handle_activities, Method.exec_bind_ok hattempt, Method.exec_bind_ok hout, Method.trace_bind_ok hattempt,
      Method.trace_bind_ok hout, Method.trace_attempt, events_append, events_append, hevents, ih.2, message_events_cons]
    exact ⟨rfl, congrArg _ (List.append_nil _)⟩

end conversation

def sealed_post : MercuryActivity where
  id := "activity-1"
  verb := "post"
  encryption_key_url := some "kms://k"
  object := { object_type := "comment", display_name := some jwe.sample_dir_token }

def plain_post : MercuryActivity :=
  { sealed_post with object := { sealed_post.object with display_name := some "hello" } }

def empty_share : MercuryActivity where
  id := "activity-2"
  verb := "share"
  encryption_key_url := some "kms://k"
  object := { object_type := "content" }

/-- A client that has the key of the conversation. -/
def reading_client : KmsClient :=
  { kms_client.new "" "" "" "" with key_cache := [("kms://k", jwe.sample_key.1)] }

theorem sealed_conversation_delivered :
    ((handle_activities handler.sample_crates jwe.sample_crates none [sealed_post, empty_share] reading_client).exec
        without_kms ()).1.1 = .ok [.ok (), .ok ()] ∧
      events ((handle_activities handler.sample_crates jwe.sample_crates none [sealed_post, empty_share] reading_client).trace
        without_kms ()) = message_events handler.sample_crates none [plain_post, empty_share] := by
  have htoken : encrypt_dir_a256gcm jwe.sample_crates (utf8 "hello") jwe.sample_key "k" jwe.sample_iv =
      .ok jwe.sample_dir_token := by
    rw [show utf8 "hello" = jwe.hello by decide]
    rfl
  have hseals : Seals jwe.sample_crates jwe.sample_key "hello" jwe.sample_dir_token :=
    .dir "k" jwe.sample_iv (by unfold Reparses; rfl) htoken
  have hcached : reading_client.key_cache.lookup "kms://k" = some jwe.sample_key.1 := rfl
  have hpost : SealedMessage jwe.sample_crates jwe.sample_key plain_post sealed_post :=
    ⟨rfl, .sealed hseals, .absent, rfl, rfl⟩
  have hshare : SealedMessage jwe.sample_crates jwe.sample_key empty_share empty_share :=
    ⟨rfl, .absent, .absent, rfl, rfl⟩
  exact conversation_delivered jwe.sample_ciphers (arrives_of_cached jwe.sample_ciphers
    (.cons ⟨_, _, rfl, hcached, hpost⟩ (.cons ⟨_, _, rfl, hcached, hshare⟩ .nil)))

end webex.rust.decryptor
