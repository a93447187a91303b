import RemoteScreen.Host.Console
import RemoteScreen.Library.Standard
import RemoteScreen.Proofs.Engine.Landing

/-!
# Proofs/Engine/Chain — what becomes of an action and those that stand in for it

    d₀ ─all attempts fail─▸ d₁ ─all attempts fail─▸ d₂ ─ … ─▸ the last one that is dispatched

The deeds of a flight, from its dispatch to its landing, are those of a **log**: the links that were
dispatched, each with its **fate**.  `Chain` is the grammar of logs, and `Flight.lands_chain` says
that a flight lands with a log of the grammar, whatever goes on between its waits.
-/

namespace RemoteScreen

/-- What becomes of a link. -/
inductive Fate where
  | skipped (reason : SkipReason)
  /-- Executed, with no verb for its type. -/
  | unknown
  /-- Executed: the verb was called for one attempt after the other, with these results. -/
  | tried (x : Execution) (results : List (Except VerbError Unit))

/-- What has become of the links that were dispatched, in order. -/
abbrev Log := List (Dispatch × Fate)

/-- The deeds of attempts with some results. -/
def Execution.deeds (d : Dispatch) : Execution → List (Except VerbError Unit) → List Deed
  | _, [] => []
  | x, result :: results => .called d x :: .returned d x result :: x.next.deeds d results

/-- The deeds of a link. -/
def Fate.deeds (d : Dispatch) : Fate → List Deed
  | skipped reason => [.arrived d, .skipped d reason]
  | unknown => [.arrived d, .executed d none]
  | tried x results => .arrived d :: .executed d (some x.verb) :: x.deeds d results

/-- The deeds of all links. -/
def Log.deeds (log : Log) : List Deed := log.flatMap fun p => p.2.deeds p.1

variable {σ : Type} {h : Host σ} {env : Engine σ → Prop}

/-- An execution of a link is begun as the engine is: with the verb for its type, unless its
condition forbids it, and with its payload filled in. -/
structure Execution.Begins (env : Engine σ → Prop) (d : Dispatch) (e : Engine σ) (x : Execution) :
    Prop where
  env : env e
  permitted : e.refuses d = false
  verb : e.verbs.get? d.action.type = some x.verb
  attempt : x.attempt = 1
  payload : x.input.payload = Engine.payloadIn d (e.context.snapshot d.overlay)
  componentId : x.input.componentId = d.action.componentId

/-- **The logs of links that stand in for one another**, each with the result of all. -/
inductive Chain (env : Engine σ → Prop) :
    List Dispatch → Log → Except ActionError Unit → Prop where
  | skipped {d rest reason} : Chain env (d :: rest) [(d, .skipped reason)] (.ok ())
  | unknown {d rest e} (he : env e) (hv : e.verbs.get? d.action.type = none) :
      Chain env (d :: rest) [(d, .unknown)] (.error (.unknownVerb d.action.type))
  | succeeded {d rest e x} {errs : List VerbError} (hx : x.Begins env d e)
      (hn : errs.length < d.action.attempts) :
      Chain env (d :: rest) [(d, .tried x (errs.map .error ++ [.ok ()]))] (.ok ())
  | failed {d e x} {errs : List VerbError} {err} (hx : x.Begins env d e)
      (hn : errs.length + 1 = d.action.attempts) :
      Chain env [d] [(d, .tried x (errs.map .error ++ [.error err]))] (.error (.verb err))
  | handedOver {d next rest e x} {errs : List VerbError} {err log result}
      (hx : x.Begins env d e) (hn : errs.length + 1 = d.action.attempts)
      (c : Chain env (next :: rest) log result) :
      Chain env (d :: next :: rest) ((d, .tried x (errs.map .error ++ [.error err])) :: log) result

/-- Every action is attempted at least once. -/
theorem Action.attempts_pos (a : Action) : 0 < a.attempts := by
  rw [attempts]
  split <;> omega

/-! ## A flight lands with a log -/

namespace Stage

variable {post : List Deed → Except ActionError Unit → Prop} {d : Dispatch}
  {rest : List Dispatch}

/-- An attempt settles if it does with every result. -/
theorem settles_script (kept : Kept h env) {x : Execution} {deeds : List Deed}
    (hr : ∀ result, (running d rest x (.done result)).Settles h env post deeds)
    (script : Script) : (running d rest x script).Settles h env post deeds := by
  induction script with
  | done result => exact hr result
  | look next ih =>
    refine settles_of_moves kept (by simp) fun now e ds s' e' m he => ?_
    cases m with
    | look =>
      rw [List.append_nil]
      exact ih e.context.data
  | write path v next ih =>
    refine settles_of_moves kept (by simp) fun now e ds s' e' m he => ?_
    cases m with
    | write =>
      rw [List.append_nil]
      exact ih
  | call c next ih =>
    refine settles_of_moves kept (by simp) fun now e ds s' e' m he => ?_
    cases m with
    | @call _ _ _ _ _ _ r _ _ _ =>
      rw [List.append_nil]
      exact ih r
    | await hd =>
      refine (Flight.lands_of_moves kept rfl fun now e ds s' e' m he => ?_).settles
      cases m with
      | @answer _ _ _ _ _ _ _ r _ _ _ =>
        rw [List.append_nil, List.append_nil]
        exact ih r

/-- **Attempts settle**, if `post` will hold when one of those left succeeds, and the flight settles
after the last of them has failed. -/
theorem settles_running (kept : Kept h env) (left : Nat) {x : Execution}
    (hx : x.attempt + left = d.action.attempts) (script : Script) {deeds : List Deed}
    (hok : ∀ errs : List VerbError, errs.length ≤ left →
      post (deeds ++ x.deeds d (errs.map .error ++ [.ok ()])) (.ok ()))
    (hfail : ∀ (errs : List VerbError) (err : VerbError), errs.length = left →
      (afterFailure rest err).Settles h env post
        (deeds ++ x.deeds d (errs.map .error ++ [.error err]))) :
    (running d rest x script).Settles h env post (deeds ++ [.called d x]) := by
  induction left generalizing x script deeds with
  | zero =>
    refine settles_script kept (fun result => ?_) script
    refine settles_of_moves kept (by simp) fun now e ds s' e' m he => ?_
    cases m with
    | succeed => exact settles_ended (by simpa [Execution.deeds] using hok [] (Nat.zero_le _))
    | retry ha | backOff ha => omega
    | @fail _ _ _ err _ _ => simpa [Execution.deeds] using hfail [] err rfl
  | succ left ih =>
    have again {err : VerbError} (script : Script) :
        (running d rest x.next script).Settles h env post
          (deeds ++ [.called d x, .returned d x (.error err)] ++ [.called d x.next]) := by
      refine ih (by simp [Execution.next]; omega) script (fun errs hn => ?_) fun errs err' hn => ?_
      · simpa [Execution.deeds] using hok (err :: errs) (by simpa using hn)
      · simpa [Execution.deeds] using hfail (err :: errs) err' (by simpa using hn)
    refine settles_script kept (fun result => ?_) script
    refine settles_of_moves kept (by simp) fun now e ds s' e' m he => ?_
    cases m with
    | succeed => exact settles_ended (by simpa [Execution.deeds] using hok [] (Nat.zero_le _))
    | retry _ _ => simpa using again (x.verb x.input)
    | backOff _ _ =>
      refine (Flight.lands_of_moves kept rfl fun now e ds s' e' m he => ?_).settles
      cases m with
      | again _ => simpa using again (x.verb x.input)
    | fail ha => omega

/-- A link that is let in settles, if `post` will hold of every log that ends with it, and the
flight settles after all attempts have failed. -/
theorem settles_ready (kept : Kept h env) {deeds : List Deed}
    (hp : ∀ log result, Chain env (d :: rest) log result → post (deeds ++ log.deeds) result)
    (hfail : ∀ e x (errs : List VerbError) (err : VerbError), x.Begins env d e →
      errs.length + 1 = d.action.attempts → (afterFailure rest err).Settles h env post
        (deeds ++ (Fate.tried x (errs.map .error ++ [.error err])).deeds d)) :
    (ready d rest).Settles h env post (deeds ++ [.arrived d]) := by
  refine settles_of_moves kept (by simp) fun now e ds s' e' m he => ?_
  cases m with
  | refuse hc =>
    refine settles_ended ?_
    simpa [Log.deeds, Fate.deeds] using hp [(d, .skipped .conditionFalse)] _ .skipped
  | unknown hc hv =>
    refine settles_ended ?_
    simpa [Log.deeds, Fate.deeds] using hp _ _ (.unknown he hv)
  | @begin _ _ _ verb x e' hc hv hb =>
    have hx : x.Begins env d e := by
      obtain rfl : _ = x := congrArg Prod.fst hb
      exact ⟨he, hc, hv, rfl, rfl, rfl⟩
    obtain rfl : verb = x.verb := Option.some.inj (hv.symm.trans hx.verb)
    have hpos := d.action.attempts_pos
    have hleft : x.attempt + (d.action.attempts - 1) = d.action.attempts := by
      rw [hx.attempt]
      omega
    rw [show deeds ++ [.arrived d] ++ [.executed d (some x.verb), .called d x]
        = deeds ++ [.arrived d, .executed d (some x.verb)] ++ [.called d x] by simp]
    refine settles_running kept _ hleft _ (fun errs hn => ?_) fun errs err hn => ?_
    · simpa [Log.deeds, Fate.deeds] using hp _ _ (.succeeded hx (show errs.length < _ by omega))
    · simpa [Fate.deeds] using hfail e x errs err hx (by omega)

/-- A link that arrives settles where it does once it is let in. -/
theorem lands_arriving (kept : Kept h env) {deeds : List Deed}
    (hp : ∀ log result, Chain env (d :: rest) log result → post (deeds ++ log.deeds) result)
    (hready : (ready d rest).Settles h env post (deeds ++ [.arrived d])) :
    (Flight.arriving (d :: rest)).Lands h env post deeds := by
  have hskip (reason : SkipReason) :
      (ended (.ok ())).Settles h env post (deeds ++ [.arrived d, .skipped d reason]) := by
    refine settles_ended ?_
    simpa [Log.deeds, Fate.deeds] using hp [(d, .skipped reason)] _ .skipped
  refine Flight.lands_of_moves kept rfl fun now e ds s' e' m he => ?_
  cases m with
  | duplicate => exact hskip _
  | enter =>
    refine settles_of_moves kept (by simp) fun now e ds s' e' m he => ?_
    cases m with
    | throttle =>
      rw [List.append_assoc]
      exact hskip _
    | pass =>
      rw [List.append_nil]
      exact hready
    | debounce =>
      refine (Flight.lands_of_moves kept rfl fun now e ds s' e' m he => ?_).settles
      cases m with
      | wake =>
        rw [List.append_nil, List.append_nil]
        exact hready

end Stage

/-- **Links land**, if `post` will hold of every log of theirs. -/
theorem Flight.lands_links (kept : Kept h env) {post : List Deed → Except ActionError Unit → Prop}
    (d : Dispatch) (rest : List Dispatch) {deeds : List Deed}
    (hp : ∀ log result, Chain env (d :: rest) log result → post (deeds ++ log.deeds) result) :
    (arriving (d :: rest)).Lands h env post deeds := by
  induction rest generalizing d deeds with
  | nil =>
    refine Stage.lands_arriving kept hp (Stage.settles_ready kept hp fun e x errs err hx hn => ?_)
    refine Stage.settles_ended ?_
    simpa [Log.deeds] using hp _ _ (.failed hx hn)
  | cons next rest ih =>
    refine Stage.lands_arriving kept hp (Stage.settles_ready kept hp fun e x errs err hx hn => ?_)
    refine (ih next fun log result c => ?_).settles
    simpa [Log.deeds] using hp _ _ (.handedOver hx hn c)

/-- A chain has a first link: the dispatched action itself. -/
theorem Dispatch.links_eq_cons (d : Dispatch) : ∃ first rest, d.links = first :: rest := by
  obtain ⟨⟨_, _, _, _, _, _, fallback, _, own⟩, overlay, input⟩ := d
  rw [links, linksFrom.eq_def]
  exact ⟨_, _, rfl⟩

/-- **Whatever goes on between its waits, a dispatch lands, with a log of its links.** -/
theorem Flight.lands_chain (kept : Kept h env) (d : Dispatch) :
    (ofDispatch d).Lands h env (fun deeds result => ∃ log, deeds = log.deeds
      ∧ Chain env d.links log result) [] := by
  obtain ⟨first, rest, hlinks⟩ := d.links_eq_cons
  rw [ofDispatch, hlinks]
  exact lands_links kept first rest fun log result c => ⟨log, rfl, c⟩

/-! ## The links of a dispatch -/

namespace Action

/-- The component of the last of some actions that has its own. -/
def lastComponent (as : List Action) : Option String := (as.filterMap (·.componentId)).getLast?

/-- The component of a chain is that of its last link with one. -/
theorem lastComponent_cons (a : Action) (as : List Action) :
    lastComponent (a :: as) = (lastComponent as <|> a.componentId) := by
  rw [lastComponent, List.filterMap_cons, lastComponent]
  cases a.componentId with
  | none => simp
  | some id =>
    rw [List.getLast?_cons]
    cases (as.filterMap (·.componentId)).getLast? <;> rfl

/-- An action with a component keeps it, and takes the one it is given otherwise. -/
theorem inheritComponent_eq (a : Action) (id : Option String) :
    a.inheritComponent id = { a with componentId := a.componentId <|> id } := by
  obtain ⟨_, _, _, _, _, _, _, _, own⟩ := a
  cases own <;> rfl

end Action

namespace Dispatch

/-- **A link is its action under its own component or else the nearest one before it, with the
overlay and the value entered of the dispatch.** -/
theorem linksFrom_getElem? (overlay input : Option Json) (id : Option String) (a : Action)
    (i : Nat) :
    (linksFrom overlay input id a)[i]? = a.chain[i]?.map fun b =>
      { action := { b with componentId := Action.lastComponent (a.chain.take (i + 1)) <|> id }
        overlay, input } := by
  induction a using Action.chain.induct generalizing id i with
  | case1 t p c th d r an own =>
    rw [linksFrom.eq_def, Action.chain]
    cases i with
    | zero => simp [Action.inheritComponent_eq, Action.lastComponent]
    | succ i => rfl
  | case2 t p c th d r next an own ih =>
    rw [linksFrom.eq_def, Action.chain]
    cases i with
    | zero => simp [Action.inheritComponent_eq, Action.lastComponent]
    | succ i =>
      rw [List.getElem?_cons_succ, List.getElem?_cons_succ, List.take_succ_cons,
        Action.lastComponent_cons]
      refine (ih (own <|> id) i).trans ?_
      cases Action.lastComponent (next.chain.take (i + 1)) <;> rfl

end Dispatch

/-! ## What a log says -/

namespace Fate

/-- The error that a link ends with. -/
def error? (d : Dispatch) : Fate → Option ActionError
  | skipped _ => none
  | unknown => some (.unknownVerb d.action.type)
  | tried _ results =>
    match results.getLast? with
    | some (.error err) => some (.verb err)
    | _ => none

/-- The link was executed, its type is registered, and all its attempts have failed. -/
def Exhausted (verbs : Keyed Verb) (d : Dispatch) : Fate → Prop
  | tried _ results =>
    verbs.get? d.action.type ≠ none ∧ results.length = d.action.attempts
      ∧ ∀ result ∈ results, result ≠ .ok ()
  | _ => False

/-- The type of an executed link decides if there are attempts; they work with what the link says,
and go on until one succeeds, or until all have failed. -/
def Lawful (verbs : Keyed Verb) (d : Dispatch) : Fate → Prop
  | skipped _ => True
  | unknown => verbs.get? d.action.type = none
  | tried x results =>
    (verbs.get? d.action.type = some x.verb ∧ x.attempt = 1
      ∧ x.input.componentId = d.action.componentId
      ∧ ∃ context : Context, x.input.payload = Engine.payloadIn d (context.snapshot d.overlay))
    ∧ ∃ errs : List VerbError,
      (results = errs.map .error ++ [.ok ()] ∧ errs.length < d.action.attempts)
        ∨ (results = errs.map .error ∧ errs.length = d.action.attempts)

end Fate

/-- **What a log says of links that stand in for one another**, and of the result of all. -/
structure Log.Lawful (verbs : Keyed Verb) (links : List Dispatch) (log : Log)
    (result : Except ActionError Unit) : Prop where
  /-- The first links are dispatched, in order. -/
  dispatched : log.map Prod.fst <+: links
  begun : log ≠ []
  /-- The next one is dispatched just when all attempts of the one before have failed. -/
  goesOn : ∀ i d fate, log[i]? = some (d, fate) →
    (i + 1 < log.length ↔ i + 1 < links.length ∧ fate.Exhausted verbs d)
  fates : ∀ d fate, (d, fate) ∈ log → fate.Lawful verbs d
  /-- The error is that of the last one dispatched. -/
  result : ∀ e, result = .error e ↔
    ∃ d fate, log.getLast? = some (d, fate) ∧ fate.error? d = some e

namespace Log

variable {verbs : Keyed Verb} {d : Dispatch} {fate : Fate} {result : Except ActionError Unit}

/-- A log of one link is lawful where its fate is, and decides the result. -/
theorem Lawful.single {rest : List Dispatch} (hf : fate.Lawful verbs d)
    (hn : rest ≠ [] → ¬ fate.Exhausted verbs d)
    (hr : ∀ e, result = .error e ↔ fate.error? d = some e) :
    Lawful verbs (d :: rest) [(d, fate)] result where
  dispatched := List.prefix_append [d] rest
  begun := List.cons_ne_nil _ _
  goesOn := by
    intro i d' fate' hi
    cases i with
    | zero =>
      obtain ⟨rfl, rfl⟩ : d = d' ∧ fate = fate' := by simpa using hi
      cases rest <;> simp_all
    | succ i => simp at hi
  fates := by simpa using hf
  result := by
    intro e
    rw [hr e]
    refine ⟨fun he => ⟨d, fate, rfl, he⟩, ?_⟩
    rintro ⟨d', fate', hl, he⟩
    obtain ⟨rfl, rfl⟩ : d = d' ∧ fate = fate' := by simpa using hl
    exact he

/-- A link that used up its attempts in vain stands lawfully before a lawful log of the rest. -/
theorem Lawful.cons {next : Dispatch} {rest : List Dispatch} {log : Log}
    (hf : fate.Lawful verbs d) (hn : fate.Exhausted verbs d)
    (hl : Lawful verbs (next :: rest) log result) :
    Lawful verbs (d :: next :: rest) ((d, fate) :: log) result where
  dispatched := by
    rw [List.map_cons]
    exact List.prefix_cons_inj d |>.2 hl.dispatched
  begun := List.cons_ne_nil _ _
  goesOn := by
    intro i d' fate' hi
    cases i with
    | zero =>
      obtain ⟨rfl, rfl⟩ : d = d' ∧ fate = fate' := by simpa using hi
      have := List.length_pos_iff.2 hl.begun
      simp [hn, this]
    | succ i => simpa using hl.goesOn i d' fate' (by simpa using hi)
  fates := by
    intro d' fate' hd
    rcases List.mem_cons.1 hd with heq | hd
    · obtain ⟨rfl, rfl⟩ := Prod.mk.inj heq
      exact hf
    · exact hl.fates d' fate' hd
  result := by
    rw [List.getLast?_cons_of_ne_nil hl.begun]
    exact hl.result

end Log

/-- **A chain on fixed verbs writes a lawful log.** -/
theorem Chain.lawful {verbs : Keyed Verb} {links log result}
    (c : Chain (fun e : Engine σ => e.verbs = verbs) links log result) :
    log.Lawful verbs links result := by
  have hbegins {d : Dispatch} {e : Engine σ} {x : Execution}
      (hx : x.Begins (·.verbs = verbs) d e) : verbs.get? d.action.type = some x.verb := by
    rw [← hx.env]
    exact hx.verb
  have htried {d : Dispatch} {e : Engine σ} {x : Execution}
      (hx : x.Begins (·.verbs = verbs) d e) : verbs.get? d.action.type = some x.verb
        ∧ x.attempt = 1 ∧ x.input.componentId = d.action.componentId
        ∧ ∃ context : Context,
          x.input.payload = Engine.payloadIn d (context.snapshot d.overlay) :=
    ⟨hbegins hx, hx.attempt, hx.componentId, e.context, hx.payload⟩
  induction c with
  | skipped => exact .single trivial (fun _ => id) (by simp [Fate.error?])
  | unknown he hv => exact .single (he ▸ hv) (fun _ => id) (by simp [Fate.error?])
  | @succeeded d rest e x errs hx hn =>
    refine .single ⟨htried hx, errs, .inl ⟨rfl, hn⟩⟩ (fun _ hex => ?_) (by simp [Fate.error?])
    exact hex.2.2 (.ok ()) (by simp) rfl
  | @failed d e x errs err hx hn =>
    refine .single ⟨htried hx, errs ++ [err], .inr ⟨by simp, by simpa using hn⟩⟩
      (fun hne => absurd rfl hne) (by simp [Fate.error?])
  | @handedOver d next rest e x errs err log result hx hn c ih =>
    refine .cons ⟨htried hx, errs ++ [err], .inr ⟨by simp, by simpa using hn⟩⟩ ⟨?_, ?_, ?_⟩ ih
    · rw [hbegins hx]
      exact Option.some_ne_none _
    · simpa using hn
    · intro result hr
      rcases List.mem_append.1 hr with hr | hr
      · obtain ⟨_, _, rfl⟩ := List.mem_map.1 hr
        exact nofun
      · rw [List.mem_singleton.1 hr]
        exact nofun

/-- A dispatch lands with a lawful log, short of its verbs being registered anew. -/
theorem Flight.lands_lawful (h : Host σ) (verbs : Keyed Verb) (d : Dispatch) :
    (ofDispatch d).Lands h (fun e => e.verbs = verbs)
      (fun deeds result => ∃ log, deeds = Log.deeds log ∧ log.Lawful verbs d.links result) [] := by
  refine Lands.imp ?_ (lands_chain (kept_verbs verbs) d)
  rintro deeds result ⟨log, rfl, c⟩
  exact ⟨log, rfl, c.lawful⟩

/-- **Fallbacks.**  Whatever goes on between the polls of a dispatch, short of its verbs being
registered anew, it goes on at each of them and lands; so it is over in the end when nothing else
goes on.  Its links are the actions of its chain, each under its own component or else the nearest
one before it, with the overlay and the value entered of the dispatch; and its deeds are those of a
lawful log: a link is dispatched just when the one before was executed, had a verb, and failed in
all its attempts; a verb is called until it succeeds or the attempts run out; and the result is an
error just when the last link dispatched ends with it. -/
theorem Flight.ofDispatch_lands (h : Host σ) (verbs : Keyed Verb) (d : Dispatch) :
    (∀ i : Nat, d.links[i]? = d.action.chain[i]?.map fun a =>
      ({ action := { a with componentId := Action.lastComponent (d.action.chain.take (i + 1)) }
         overlay := d.overlay, input := d.input } : Dispatch))
    ∧ (ofDispatch d).Lands h (fun e => e.verbs = verbs)
      (fun deeds result => ∃ log, deeds = Log.deeds log ∧ log.Lawful verbs d.links result) []
    ∧ ∀ now (e : Engine σ), e.verbs = verbs → ∃ log result e',
        (ofDispatch d).Flown h now e (Log.deeds log) result e'
          ∧ log.Lawful verbs d.links result := by
  refine ⟨fun i => ?_, lands_lawful h verbs d, fun now e he => ?_⟩
  · rw [Dispatch.links, Dispatch.linksFrom_getElem?]
    simp
  · obtain ⟨_, result, e', hf, log, rfl, hlog⟩ :=
      (lands_lawful h verbs d).flown (kept_verbs verbs) now he
    exact ⟨log, result, e', hf, hlog⟩

namespace Flight

/-- A short vibration. -/
def shake : Action := { type := "vibrate" }

/-- A way to nowhere from a map, tried twice, and then a vibration. -/
def astray : Dispatch :=
  { action :=
      { type := "navigate", componentId := some "map", retry := some ⟨2, 10, .linear⟩
        fallback := some shake } }

/-- The vibration is one of the map too. -/
def shaken : Dispatch := { action := { shake with componentId := some "map" } }

/-- Both attempts fail, ten apart, and the vibration is felt. -/
theorem flown_astray : ∃ (x y : Execution) (e : Engine Store),
    (ofDispatch astray).Flown Console.host 0 (.new .standard {} .empty [])
      [.arrived astray, .executed astray (some Verb.navigate), .called astray x,
        .returned astray x (.error (.missingField "navigateTo")), .called astray x.next,
        .returned astray x.next (.error (.missingField "navigateTo")), .arrived shaken,
        .executed shaken (some Verb.vibrate), .called shaken y, .returned shaken y (.ok ())]
      (.ok ()) e := by
  let e₀ : Engine Store := .new .standard {} .empty []
  let lost : VerbError := .missingField "navigateTo"
  let begun := (e₀.mark astray).begun Console.host 0 astray Verb.navigate
  let e₁ := begun.2.retried astray begun.1
  let e₂ := (Engine.settle Console.host 10 astray begun.1.next (.error lost) e₁).2
  let felt := (e₂.mark shaken).begun Console.host 10 shaken Verb.vibrate
  have hlost : Verb.navigate begun.1.input = .done (.error lost) := rfl
  have hbegin : Move Console.host 0 (.ready astray [shaken]) (e₀.mark astray)
      [.executed astray (some Verb.navigate), .called astray begun.1]
      (.running astray [shaken] begun.1 (.done (.error lost))) begun.2 := by
    rw [← hlost]
    exact .begin rfl rfl rfl
  have hbackOff : Move Console.host 0 (.running astray [shaken] begun.1 (.done (.error lost)))
      begun.2 [.returned astray begun.1 (.error lost)]
      (.resting (.backingOff astray [shaken] begun.1 (0 + (9 + 1)))) e₁ := .backOff (by decide) rfl
  have first : Run Console.host (max 0 0) (.resting (.ofDispatch astray)) e₀ _
      (.backingOff astray [shaken] begun.1 10) e₁ :=
    .move (.enter rfl) (.move (.pass rfl nofun) (.move hbegin (.move hbackOff
      (.rest (waits_backingOff.2 (by decide))))))
  have hagain : Move Console.host 10 (.resting (.backingOff astray [shaken] begun.1 10)) e₁
      [.called astray begun.1.next] (.running astray [shaken] begun.1.next (.done (.error lost)))
      e₁ := .again (Nat.le_refl 10)
  have hfail : Move Console.host 10 (.running astray [shaken] begun.1.next (.done (.error lost)))
      e₁ [.returned astray begun.1.next (.error lost)] (.resting (.arriving [shaken])) e₂ :=
    .fail (by decide)
  have hshake : Move Console.host 10 (.ready shaken []) (e₂.mark shaken)
      [.executed shaken (some Verb.vibrate), .called shaken felt.1]
      (.running shaken [] felt.1 (Verb.vibrate felt.1.input)) felt.2 := .begin rfl rfl rfl
  have second : Run Console.host (max 0 10) (.resting (.backingOff astray [shaken] begun.1 10)) e₁ _
      (.landed (.ok ())) _ :=
    .move hagain (.move hfail (.move (.enter rfl) (.move (.pass rfl nofun) (.move hshake
      (.move (.call rfl rfl) (.move .succeed (.rest (waits_landed _))))))))
  have hf : (ofDispatch astray).Flown Console.host 0 e₀ _ (.ok ()) _ :=
    .of_run rfl first (.of_run rfl second .landed)
  exact ⟨begun.1, felt.1, _, hf⟩

/-- The way is tried twice and lost, and the one log that is lawful tells it so. -/
theorem ofDispatch_lands_astray : ∃ (x y : Execution) (log : Log) (e : Engine Store),
    (ofDispatch astray).Flown Console.host 0 (.new .standard {} .empty []) log.deeds (.ok ()) e
      ∧ log.Lawful (Verb.builtins .standard) astray.links (.ok ())
      ∧ log.deeds = [.arrived astray, .executed astray (some Verb.navigate), .called astray x,
        .returned astray x (.error (.missingField "navigateTo")), .called astray x.next,
        .returned astray x.next (.error (.missingField "navigateTo")), .arrived shaken,
        .executed shaken (some Verb.vibrate), .called shaken y, .returned shaken y (.ok ())] := by
  obtain ⟨x, y, e, hf⟩ := flown_astray
  obtain ⟨-, -, hlands⟩ := ofDispatch_lands Console.host (Verb.builtins .standard) astray
  obtain ⟨log, result, e', hf', hlog⟩ := hlands 0 (.new .standard {} .empty []) rfl
  obtain ⟨hdeeds, rfl, rfl⟩ := hf.unique hf'
  exact ⟨x, y, log, e, hf', hlog, hdeeds.symm⟩

end Flight
end RemoteScreen
