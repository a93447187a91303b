import RemoteScreen.Proofs.Verb.Performance

/-!
# Proofs/Verb/Atomic — a built-in verb does its one thing, or nothing

    checks ──▸ refused                          nothing is called, nothing is written
       │
       └─▸ call ──▸ declined                    nothing is written
             │
             └─▸ accepted ──▸ (one write) ──▸ well

A verb checks its payload and its capability before it calls the host, and it calls the host before
it writes.

* `ensures_checked`, `ensures_serve` — checks first, then one call and an end as the host replies:
  **most verbs are of this kind, and it keeps the contract**;
* `openUrl_contract`, `storage_contract`, `apiCall_contract` — those that go on after a reply;
* `keeps_contract` — **every built-in verb keeps its contract**, whatever it is given, whatever is
  offered, whatever it sees of the data and whatever the host replies.
-/

namespace RemoteScreen

/-- The complaint of a check, made before the host is called. -/
def VerbError.refuses : VerbError → Bool
  | missingField _ | invalidField _ _ | capabilityUnavailable _ => true
  | unsupported _ | http _ | network _ | validation _ | host _ => false

namespace Call

/-- The host does as a call asks; to say whether it can is not to do it. -/
def Accepts : (c : Call) → c.Reply → Prop
  | canOpen _, _ => False
  | track .., _ | log _, _ => True
  | alert .., reply => reply.isOk
  | storeGet _, reply => reply.isOk
  | send _, reply => reply.isOk
  | custom .., reply => reply.isOk
  | navigate .., reply => reply.isOk
  | dispatch _, reply => reply.isOk
  | openUrl _, reply => reply.isOk
  | share .., reply => reply.isOk
  | vibrate _, reply => reply.isOk
  | storeSet .., reply => reply.isOk
  | storeRemove _, reply => reply.isOk
  | refresh _, reply => reply.isOk

/-- A call opens a URL. -/
def opens : Call → Bool
  | openUrl _ => true
  | _ => false

end Call

namespace Verb

open Script

/-! ## The contract -/

/-- The capability that a built-in verb serves by, if it cannot do without. -/
def serves? : String → Option Capability
  | "navigate" => some .navigator
  | "updateState" | "dispatch" => some .state
  | "refresh" => some .screens
  | "showAlert" => some .alerts
  | "openUrl" => some .urls
  | "share" => some .share
  | "vibrate" => some .vibrator
  | "storage" => some .storage
  | _ => none

/-- The built-in verbs that take no capability. -/
def unserved : List String := ["apiCall", "validateForm", "analytics", "log"]

/-- The capability of a verb is offered, and the host has done what it was asked by it. -/
inductive Served (name : String) (i : VerbInput) (acts : List Act) : Prop where
  | intro {cap : Capability} {c : Call} {reply : c.Reply} (takes : serves? name = some cap)
      (offered : i.offers cap = true) (told : .called c reply ∈ acts)
      (via : c.capability? = some cap) (accepted : c.Accepts reply)

/-- Before a URL is opened, the host has been asked about it and has said that it can. -/
def Asked (acts : List Act) : Prop :=
  ∀ before url reply after, acts = before ++ .called (.openUrl url) reply :: after →
    .called (.canOpen url) (.ok true) ∈ before

/-- A value that a verb has got from outside: the body of an answer, or an entry of the store. -/
inductive Fetched (i : VerbInput) : String → List Act → Json → Prop where
  | body {acts request response body} (told : .called (.send request) (.ok response) ∈ acts)
      (read : response.body = .ok body) : Fetched i "apiCall" acts (valueOfBody body)
  | entry {acts key stored} (operation : i.required "operation" = .ok "get")
      (told : .called (.storeGet key) (.ok stored) ∈ acts) :
      Fetched i "storage" acts (stored.getD .null)

/-- **What a built-in verb keeps to**, by its name, what it is given, its acts and its result. -/
structure Contract (name : String) (i : VerbInput) (acts : List Act)
    (result : Except VerbError Unit) : Prop where
  /-- What is refused has called nothing. -/
  refused : ∀ err, result = .error err → err.refuses = true → Act.calls acts = []
  /-- What ends well has been done, unless there was nothing to be done by others. -/
  served : name ∉ unserved → result = .ok () → Served name i acts
  asked : Asked acts
  /-- What fails has written nothing, so data and revision are as they were. -/
  untouched : ∀ err, result = .error err → Act.writes acts = []
  /-- What ends well has written nothing, or what it fetched where it was asked to. -/
  wrote : result = .ok () → Act.writes acts = [] ∨ ∃ path v, i.optional "storeAs" = some path
    ∧ Fetched i name acts v ∧ Act.writes acts = [(path, v)]

/-! ## The ends of a verb -/

variable {name : String} {i : VerbInput} {acts : List Act} {c : Call} {reply : c.Reply}

/-- Where nothing is opened nothing has to be asked before. -/
theorem Asked.of_not_opens (h : ∀ c ∈ Act.calls acts, c.opens = false) : Asked acts := by
  intro before url reply after hacts
  have hmem : .openUrl url ∈ Act.calls acts :=
    List.mem_filterMap.2 ⟨.called (.openUrl url) reply, by simp [hacts], rfl⟩
  cases h _ hmem

theorem Asked.single (hc : c.opens = false) : Asked [.called c reply] :=
  .of_not_opens fun _ h => List.mem_singleton.1 h ▸ hc

/-- A URL that the host says it can open may be opened. -/
theorem Asked.opened {url : String} {reply : Except HostError Unit} :
    Asked [.called (.canOpen url) (.ok true), .called (.openUrl url) reply] := by
  intro before url' reply' after h
  match before with
  | [] => simp at h
  | [asked] =>
    obtain ⟨rfl, ⟨rfl, -⟩, -⟩ := by simpa using h
    exact List.mem_cons_self
  | _ :: _ :: _ => simp at h

namespace Contract

/-- A verb that has done nothing may fail. -/
theorem stopped {err : VerbError} : Contract name i [] (.error err) where
  refused _ _ _ := rfl
  served _ := nofun
  asked := .of_not_opens nofun
  untouched _ _ := rfl
  wrote := nofun

/-- A verb that has called the host may fail, unless it complains of what it was given. -/
theorem failed {err : VerbError} (ha : Asked acts) (hw : Act.writes acts = [])
    (he : err.refuses = false) : Contract name i acts (.error err) where
  refused err' h hr := by
    cases h
    rw [he] at hr
    cases hr
  served _ := nofun
  asked := ha
  untouched _ _ := hw
  wrote := nofun

/-- A verb may end well once it has been served. -/
theorem done (hs : name ∉ unserved → Served name i acts) (ha : Asked acts)
    (hw : Act.writes acts = []) : Contract name i acts (.ok ()) where
  refused _ := nofun
  served hn _ := hs hn
  asked := ha
  untouched _ := nofun
  wrote _ := .inl hw

/-- A verb may end well with a write of what it has fetched, where it is asked to write it. -/
theorem stored {v : Json} {path : String}
    (hs : name ∉ unserved → Served name i [.called c reply, .wrote path v])
    (hc : c.opens = false) (hpath : i.optional "storeAs" = some path)
    (hv : Fetched i name [.called c reply, .wrote path v] v) :
    Contract name i [.called c reply, .wrote path v] (.ok ()) where
  refused _ := nofun
  served hn _ := hs hn
  asked := .of_not_opens fun _ h => List.mem_singleton.1 h ▸ hc
  untouched _ := nofun
  wrote _ := .inr ⟨path, v, hpath, hv, rfl⟩

end Contract

/-! ## Verbs that serve by one call -/

/-- **Checks that come before anything else keep the contract.** -/
theorem ensures_checked {α : Type} {x : Except VerbError α} {P : α → Prop} {next : α → Script}
    (hx : Passes x P) (hok : ∀ a, P a → (next a).Ensures (Contract name i)) :
    (withValue x next).Ensures (Contract name i) :=
  ensures_withValue hx hok fun _ => .stopped

/-- An end as the host replies: well once it has done as asked, and otherwise with its complaint. -/
def EndsAsReplied (c : Call) (next : c.Reply → Script) : Prop :=
  ∀ reply, (c.Accepts reply ∧ next reply = .ok) ∨ ∃ err, next reply = .fail (.host err)

/-- The usual end, for a call whose reply only says whether it was done. -/
theorem asReplied_or (reply : Except HostError Unit) :
    (reply.isOk ∧ asReplied reply = .ok) ∨ ∃ err, asReplied reply = .fail (.host err) := by
  cases reply with
  | ok _ => exact .inl ⟨rfl, rfl⟩
  | error err => exact .inr ⟨err, rfl⟩

/-- **One call, and an end as the host replies, keep the contract** where the capability that the
call takes is offered. -/
theorem ensures_serve {cap : Capability} {next : c.Reply → Script} (ho : i.offers cap = true)
    (hs : serves? name = some cap) (hcap : c.capability? = some cap) (hc : c.opens = false)
    (hn : EndsAsReplied c next) : (Script.call c next).Ensures (Contract name i) := by
  intro reply
  obtain ⟨ha, hnext⟩ | ⟨err, hnext⟩ := hn reply
  · rw [hnext]
    exact .done (fun _ => ⟨hs, ho, List.mem_cons_self, hcap, ha⟩) (.single hc) rfl
  · rw [hnext]
    exact .failed (.single hc) rfl rfl

/-- What a navigation ensures; the verbs after it are alike. -/
theorem navigate_contract (i : VerbInput) : (navigate i).Ensures (Contract "navigate" i) := by
  refine ensures_checked (P := fun _ => i.offers .navigator = true) ?_
    fun (_, _) ho => ensures_serve ho rfl rfl rfl asReplied_or
  dsimp only
  split
  · exact .bind (P := fun _ => False) .error nofun
  · exact .bind .self fun _ _ => .bind .need fun _ ho => .pure ho

theorem updateState_contract (i : VerbInput) :
    (updateState i).Ensures (Contract "updateState" i) :=
  ensures_checked (.bind .self fun _ _ => .bind .need fun _ ho => .pure ho)
    fun _ ho => ensures_serve ho rfl rfl rfl asReplied_or

theorem dispatch_contract (i : VerbInput) : (dispatch i).Ensures (Contract "dispatch" i) :=
  ensures_checked (.bind .self fun _ _ => .bind .need fun _ ho => .pure ho)
    fun _ ho => ensures_serve ho rfl rfl rfl asReplied_or

theorem refresh_contract (i : VerbInput) : (refresh i).Ensures (Contract "refresh" i) :=
  ensures_checked .need fun _ ho => ensures_serve ho rfl rfl rfl asReplied_or

theorem showAlert_contract (i : VerbInput) : (showAlert i).Ensures (Contract "showAlert" i) := by
  refine ensures_checked (P := fun _ => i.offers .alerts = true)
    (.bind .self fun _ _ => .bind .self fun _ _ => .bind .need fun _ ho => .pure ho)
    fun (_, _) ho => ensures_serve ho rfl rfl rfl fun reply => ?_
  cases reply with
  | ok _ => exact .inl ⟨rfl, rfl⟩
  | error err => exact .inr ⟨err, rfl⟩

theorem share_contract (i : VerbInput) : (share i).Ensures (Contract "share" i) := by
  refine ensures_checked (P := fun _ => i.offers .share = true) ?_
    fun _ ho => ensures_serve ho rfl rfl rfl asReplied_or
  split
  · exact .bind (P := fun _ => False) .error nofun
  · exact .need

theorem vibrate_contract (i : VerbInput) : (vibrate i).Ensures (Contract "vibrate" i) :=
  ensures_checked (.bind .self fun _ _ => .bind .need fun _ ho => .pure ho)
    fun _ ho => ensures_serve ho rfl rfl rfl asReplied_or

/-! ## Verbs that go on after a reply -/

theorem openUrl_contract (i : VerbInput) : (openUrl i).Ensures (Contract "openUrl" i) := by
  refine ensures_checked (.bind .self fun _ _ => .bind .need fun _ ho => .pure ho)
    fun url ho can => ensures_withReply (fun answer hcan => ?_) fun _ =>
      .failed (.single rfl) rfl rfl
  cases answer with
  | false => exact .failed (.single rfl) rfl rfl
  | true =>
    subst hcan
    intro reply
    obtain ⟨ha, hnext⟩ | ⟨err, hnext⟩ := asReplied_or reply
    · rw [hnext]
      exact .done (fun _ => ⟨rfl, ho, .tail _ (.head _), rfl, ha⟩) .opened rfl
    · rw [hnext]
      exact .failed .opened rfl rfl

theorem storage_contract (i : VerbInput) : (storage i).Ensures (Contract "storage" i) := by
  refine ensures_checked
    (P := fun a => i.required "operation" = .ok a.1 ∧ i.offers .storage = true)
    (.bind .self fun _ hop => .bind .self fun _ _ => .bind .need fun _ ho => .pure ⟨hop, ho⟩)
    fun (operation, key) ⟨hop, ho⟩ => ?_
  dsimp only at hop ⊢
  split
  · refine fun reply => ensures_withReply (fun entry hentry => ?_) fun _ =>
      .failed (.single rfl) rfl rfl
    subst hentry
    rw [storeAs]
    split
    · next path hpath =>
      exact .stored (fun _ => ⟨rfl, ho, List.mem_cons_self, rfl, rfl⟩) rfl hpath
        (.entry hop List.mem_cons_self)
    · exact .done (fun _ => ⟨rfl, ho, List.mem_cons_self, rfl, rfl⟩) (.single rfl) rfl
  · exact ensures_serve ho rfl rfl rfl asReplied_or
  · exact ensures_serve ho rfl rfl rfl asReplied_or
  · exact .stopped

/-- An API call keeps its contract, however addresses are read. -/
theorem apiCall_contract (url? : String → Option Url) (i : VerbInput) :
    (apiCall url? i).Ensures (Contract "apiCall" i) := by
  have hunserved {acts} (h : "apiCall" ∉ unserved) : Served "apiCall" i acts :=
    absurd List.mem_cons_self h
  refine ensures_checked .self fun request _ reply => ?_
  cases reply with
  | error _ => exact .failed (.single rfl) rfl rfl
  | ok response =>
    dsimp only
    split
    · exact .failed (.single rfl) rfl rfl
    · split
      · exact .done hunserved (.single rfl) rfl
      · next path hpath =>
        split
        · exact .failed (.single rfl) rfl rfl
        · next body hbody =>
          exact .stored hunserved rfl hpath (.body List.mem_cons_self hbody)

/-! ## Verbs that take no capability -/

/-- The validation of a form keeps its contract, however patterns are matched. -/
theorem validateForm_contract (patterns : Patterns) (i : VerbInput) :
    (validateForm patterns i).Ensures (Contract "validateForm" i) := by
  refine ensures_checked .self fun fields _ data => ensures_checked .self fun complaints _ => ?_
  split
  · exact .done (fun h => absurd (by decide) h) (.of_not_opens nofun) rfl
  · exact .stopped

/-- A report is taken by the host or goes to the log; it opens nothing. -/
theorem opens_reportCall {offers : Capability → Bool} {event : String} {properties : Json} :
    (reportCall offers event properties).opens = false := by
  rw [reportCall]
  split <;> rfl

theorem analytics_contract (i : VerbInput) : (analytics i).Ensures (Contract "analytics" i) :=
  ensures_checked .self fun _ _ _ =>
    .done (fun h => absurd (by decide) h) (.single opens_reportCall) rfl

theorem log_contract (i : VerbInput) : (log i).Ensures (Contract "log" i) :=
  ensures_checked .self fun _ _ _ => .done (fun h => absurd (by decide) h) (.single rfl) rfl

/-! ## All built-in verbs -/

/-- **Every built-in verb keeps its contract.** -/
theorem keeps_contract {library : Library} {name : String} {verb : Verb}
    (hv : (builtins library).get? name = some verb) (i : VerbInput) {acts : List Act}
    {result : Except VerbError Unit} (p : (verb i).Performs acts result) :
    Contract name i acts result := by
  refine p.of_ensures ?_
  have hmem := Keyed.mem_ofList (Keyed.mem_of_get? hv)
  simp only [List.mem_cons, List.not_mem_nil, or_false, Prod.mk.injEq] at hmem
  rcases hmem with ⟨rfl, rfl⟩ | ⟨rfl, rfl⟩ | ⟨rfl, rfl⟩ | ⟨rfl, rfl⟩ | ⟨rfl, rfl⟩ | ⟨rfl, rfl⟩
    | ⟨rfl, rfl⟩ | ⟨rfl, rfl⟩ | ⟨rfl, rfl⟩ | ⟨rfl, rfl⟩ | ⟨rfl, rfl⟩ | ⟨rfl, rfl⟩ | ⟨rfl, rfl⟩
  · exact navigate_contract i
  · exact updateState_contract i
  · exact dispatch_contract i
  · exact refresh_contract i
  · exact showAlert_contract i
  · exact openUrl_contract i
  · exact share_contract i
  · exact vibrate_contract i
  · exact apiCall_contract _ i
  · exact storage_contract i
  · exact validateForm_contract _ i
  · exact analytics_contract i
  · exact log_contract i

/-- A desk that offers everything is asked for a token, to be written to the data. -/
def tokenInput : VerbInput where
  payload := [("key", .str "token"), ("operation", .str "get"), ("storeAs", .str "session.token")]
  componentId := none
  offers _ := true
  config := {}

/-- A token that is in the store gets to where it is asked for, and everything is in order. -/
theorem keeps_contract_token :
    (builtins .standard).get? "storage" = some storage
      ∧ (storage tokenInput).Performs
        [.called (.storeGet "token") (.ok (some (.str "abc"))),
          .wrote "session.token" (.str "abc")] (.ok ())
      ∧ Contract "storage" tokenInput
        [.called (.storeGet "token") (.ok (some (.str "abc"))),
          .wrote "session.token" (.str "abc")] (.ok ()) := by
  have hv : (builtins .standard).get? "storage" = some storage := rfl
  have asked : (storage tokenInput).Unfolds []
      (.call (.storeGet "token") (withReply fun v => storeAs tokenInput (v.getD .null))) := .refl
  have written : (storage tokenInput).Unfolds
      [.called (.storeGet "token") (.ok (some (.str "abc")))]
      (.write "session.token" (.str "abc") .ok) := asked.call (.ok (some (.str "abc")))
  exact ⟨hv, written.write, keeps_contract hv tokenInput written.write⟩

end Verb

end RemoteScreen
