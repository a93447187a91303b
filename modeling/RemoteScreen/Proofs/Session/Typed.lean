import RemoteScreen.Library.Standard
import RemoteScreen.Proofs.Engine.Snapshot
import RemoteScreen.Proofs.Render.Handlers
import RemoteScreen.Proofs.Session.Transparent
import RemoteScreen.Proofs.Template.Fixed

/-!
# Proofs/Session/Typed — what is typed reaches verbs as it is

    typed ──▸ handler ──▸ dispatch ──▸ (override) ──▸ link ──▸ attempt ──▸ … ──▸ link ──▸ attempt
                              │            ▴            payload filled in, then `value` put in
                              └── input ───┴────────────────┴───────────────────────┘

The value of an event goes along beside the payload, and is put into it after the templates are
filled in.  So a verb is given what was typed as it was typed, also when it reads like a template.

* `Handler.Course` — what a handler sets off, told in order, whatever happens to the session in
  between;
* `Session.Grown.typed_verbatim` — **the value of an event reaches every verb as it is**, or, where
  the event does not carry it on, makes no difference.
-/

namespace RemoteScreen

variable {σ : Type} {h : Host σ} {now : Nat}

/-! ## Whose handlers show -/

/-- A fallback answers a press alone, by a reset. -/
theorem Boundary.fallback_handles {message event : String} {handler : Handler}
    (hh : Element.AnyHandles [fallback message] event handler) :
    event = "onPress" ∧ handler = .resetBoundary := by
  obtain ⟨below, hb, hhandler⟩ := hh
  have hall : Element.allIn [fallback message]
      = [fallback message, (Element.new "Text").withProp "text" (.str apology),
        (((Element.new "Button").withProp "title" (.str "Retry")).withHandler "onPress"
          .resetBoundary).withKey retryKey] := rfl
  rw [hall] at hb
  simp only [List.mem_cons, List.not_mem_nil, or_false] at hb
  rcases hb with rfl | rfl | rfl
  · cases hhandler
  · cases hhandler
  · have hpress : (if "onPress" = event then some Handler.resetBoundary else none) = some handler :=
      hhandler
    split at hpress
    · next heq => exact ⟨heq.symm, (Option.some.inj hpress).symm⟩
    · cases hpress

namespace Session

/-- **What may have happened to a session** that began with nothing kept: it has rendered trees,
with factories that bind nothing by themselves, and has else done what leaves alone what is kept, or
drops it. -/
inductive Grown : Session σ → Prop where
  | begin {s} (hm : s.memo = []) : Grown s
  | render {s} (g : Grown s) (hf : BindNothing s.primitives) (tree : List Node)
      (overlay : Option Json) : Grown (s.render tree overlay).2
  | onward {s s'} (g : Grown s) (hm : s'.memo = s.memo ∨ s'.memo = []) : Grown s'

/-- A session that has grown remembers only handlers of its nodes. -/
theorem Grown.bound {s : Session σ} (g : Grown s) : s.memo.Bound := by
  induction g with
  | begin hm => rw [hm]; exact Memo.bound_nil
  | @render s _ hf tree overlay ih =>
    cases hb : s.boundary with
    | clear =>
      rw [(render_of_clear hb tree overlay).2.1]
      exact (renderTree_bound s.rules hf tree ih).memo
    | tripped message => rwa [(render_of_tripped hb tree overlay).2]
  | onward _ hm ih =>
    rcases hm with hm | hm
    · rwa [hm]
    · rw [hm]
      exact Memo.bound_nil

/-- **A handler that shows is bound by a node of the tree**, or is that of the retry button. -/
theorem Grown.render_bound {s : Session σ} (g : Grown s) (hf : BindNothing s.primitives)
    {tree : List Node} {overlay : Option Json} {event : String} {handler : Handler}
    (hh : Element.AnyHandles (s.render tree overlay).1.elements event handler) :
    (event = "onPress" ∧ handler = .resetBoundary) ∨ Node.BindIn tree event handler := by
  cases hb : s.boundary with
  | clear =>
    rw [(render_of_clear hb tree overlay).1] at hh
    have hbound : Binds tree (fun es => es) (s.rendering tree overlay) :=
      renderTree_bound s.rules hf tree g.bound
    cases hr : (s.rendering tree overlay).1 with
    | ok elements =>
      rw [hr] at hh
      exact .inr (hbound.outcome elements hr event handler hh)
    | error failure =>
      rw [hr] at hh
      exact .inl (Boundary.fallback_handles hh)
  | tripped message =>
    rw [(render_of_tripped hb tree overlay).1] at hh
    exact .inl (Boundary.fallback_handles hh)

end Session

/-! ## What a job does -/

/-- What is told of a job: the override is asked, and a flight does a deed, the engine being so. -/
inductive JobDeed (σ : Type) where
  | asked (action : Action) (overlay : Option Json)
  | done (e : Engine σ) (deed : Deed)

/-- **A run of moves**, told with the engine at each. -/
inductive Flies (h : Host σ) (now : Nat) :
    Stage → Engine σ → List (JobDeed σ) → Flight → Engine σ → Prop where
  | rest {f e} (hf : f.waits now) : Flies h now (.resting f) e [] f e
  | move {s e ds s' e' tr f e''} (m : Move h now s e ds s' e') (r : Flies h now s' e' tr f e'') :
      Flies h now s e (ds.map (.done e) ++ tr) f e''

/-- A run of moves can be told with the engines it went through. -/
theorem Run.flies {s e ds f e'} (r : Run h now s e ds f e') : ∃ tr, Flies h now s e tr f e' := by
  induction r with
  | rest hf => exact ⟨[], .rest hf⟩
  | move m _ ih =>
    obtain ⟨tr, r⟩ := ih
    exact ⟨_, .move m r⟩

theorem Flies.run {s e tr f e'} (r : Flies h now s e tr f e') : ∃ ds, Run h now s e ds f e' := by
  induction r with
  | rest hf => exact ⟨[], .rest hf⟩
  | move m _ ih =>
    obtain ⟨ds, r⟩ := ih
    exact ⟨_, .move m r⟩

namespace Session

/-- The override is asked when a dispatch begins, if there is one on its way. -/
def asks (s : Session σ) (door : Door) (d : Dispatch) : List (JobDeed σ) :=
  match door, s.override with
  | .session, some _ => [.asked d.raw d.overlay]
  | _, _ => []

/-- **How a job goes on**, told in order: its flight goes as far as it does without waiting, and
those behind it after it has landed. -/
inductive Goes (h : Host σ) (now : Nat) (door : Door) (heeded : Bool) :
    Flight → List Dispatch → Session σ → List (JobDeed σ) → JobState × Session σ → Prop where
  | waits {f rest tr f' e'} {s : Session σ} (r : Flies h now (.resting f) s.engine tr f' e')
      (hf : ∀ result, f' ≠ .landed result) :
      Goes h now door heeded f rest s tr (.underWay f' rest, { s with engine := e' })
  | ended {f tr result e'} {s : Session σ}
      (r : Flies h now (.resting f) s.engine tr (.landed result) e') :
      Goes h now door heeded f [] s tr
        (.ended (if heeded then result else .ok ()), { s with engine := e' }.tell door result)
  | next {f d rest tr result e' s' begun tr' out} {s : Session σ}
      (r : Flies h now (.resting f) s.engine tr (.landed result) e')
      (hs : { s with engine := e' }.tell door result = s')
      (hb : s'.beginDispatch door d = begun)
      (g : Goes h now door heeded begun.1 rest begun.2 tr' out) :
      Goes h now door heeded f (d :: rest) s (tr ++ s'.asks door d ++ tr') out

/-- **A poll of a job is told in one way at least.** -/
theorem goes_pollFlight (h : Host σ) (now : Nat) (door : Door) (heeded : Bool) (f : Flight)
    (rest : List Dispatch) (s : Session σ) :
    ∃ tr, Goes h now door heeded f rest s tr (pollFlight h now door heeded f rest s) := by
  induction rest generalizing f s with
  | nil =>
    obtain ⟨ds, r⟩ := Runs.poll h now f s.engine
    obtain ⟨tr, r⟩ := r.flies
    rw [pollFlight]
    split
    · next result e' heq =>
      rw [heq] at r
      exact ⟨tr, .ended r⟩
    · next f' e' hland heq =>
      rw [heq] at r
      exact ⟨tr, .waits r hland⟩
  | cons d rest ih =>
    obtain ⟨ds, r⟩ := Runs.poll h now f s.engine
    obtain ⟨tr, r⟩ := r.flies
    rw [pollFlight]
    split
    · next result e' heq =>
      rw [heq] at r
      obtain ⟨tr', g⟩ := ih ((({ s with engine := e' } : Session σ).tell door result).beginDispatch
        door d).1 ((({ s with engine := e' } : Session σ).tell door result).beginDispatch door d).2
      exact ⟨_, .next r rfl rfl g⟩
    · next f' e' hland heq =>
      rw [heq] at r
      exact ⟨tr, .waits r hland⟩

/-- **What is told is what a poll of the job does.** -/
theorem Goes.pollFlight_eq {door heeded f rest tr out} {s : Session σ}
    (g : Goes h now door heeded f rest s tr out) :
    pollFlight h now door heeded f rest s = out := by
  have hpoll {f e tr f' e'} (r : Flies h now (.resting f) e tr f' e') :
      f.poll h now e = (f', e') := by
    obtain ⟨ds, r⟩ := r.run
    exact r.poll_eq
  induction g with
  | @waits f rest tr f' e' s r hf =>
    cases rest <;> rw [pollFlight, hpoll r] <;>
      (split
       · next heq => exact absurd (congrArg Prod.fst heq) (hf _)
       · next heq => cases heq; rfl)
  | ended r => rw [pollFlight, hpoll r]
  | next r hs hb g ih =>
    rw [pollFlight, hpoll r]
    simp only [hs, hb]
    exact ih

end Session

namespace Handler

/-- What a handler dispatches, one after the other. -/
def dispatches (value : Option Json) : Handler → List Dispatch
  | .bound b => (b.echo value).toList ++ (b.main value).toList
  | .inert | .resetBoundary => []

/-- **What comes of an event**, told in order: its handler begins a job in some session, and the job
goes on now and then, whatever has happened to the session in between. -/
inductive Course (h : Host σ) (handler : Handler) (value : Option Json) :
    List (JobDeed σ) → Job → Prop where
  | begin (s : Session σ) :
      Course h handler value ((handler.dispatches value).head?.toList.flatMap (s.asks .session))
        (s.beginHandler handler value).1
  | poll {tr j} (c : Course h handler value tr j) (now : Nat) (s : Session σ) {f rest tr' out}
      (hj : j.state = .underWay f rest) (g : Session.Goes h now j.door j.heeded f rest s tr' out) :
      Course h handler value (tr ++ tr') { j with state := out.1 }

end Handler

/-! ## Whose links are called -/

/-- The links that a stage is at or has before it. -/
def Stage.links : Stage → List Dispatch
  | resting (.arriving links) => links
  | resting (.debouncing d rest _) | resting (.calling d rest _ _ _ _)
  | resting (.backingOff d rest _ _) | admitted d rest | ready d rest | running d rest _ _ =>
    d :: rest
  | resting (.landed _) => []

/-- A move takes up no link that was not there. -/
theorem Move.links {s e ds s' e'} (m : Move h now s e ds s' e') : ∀ d ∈ s'.links, d ∈ s.links := by
  intro d hd
  cases m with
  | @fail _ rest =>
    cases rest with
    | nil => simp [Stage.afterFailure, Stage.links] at hd
    | cons next rest => exact List.mem_cons_of_mem _ hd
  | nothing | duplicate | throttle | refuse | unknown | succeed => simp [Stage.links] at hd
  | _ => exact hd

/-- **An execution that a dispatch makes**: of one of its links, with the payload filled in in the
data as it was when the link was executed. -/
structure Dispatch.Makes (h : Host σ) (D : Dispatch) (tr : List (JobDeed σ)) (d : Dispatch)
    (x : Execution) : Prop where
  link : d ∈ D.links
  offers : x.input.offers = h.offers
  filled : ∃ e, .done e (.executed d (some x.verb)) ∈ tr
    ∧ x.input.payload = Engine.payloadIn d (e.context.snapshot d.overlay)

/-- A stage of the flight of a dispatch, after what is told. -/
structure Stage.Of (h : Host σ) (D : Dispatch) (tr : List (JobDeed σ)) (s : Stage) : Prop where
  links : ∀ d ∈ s.links, d ∈ D.links
  underWay : ∀ w, s.effort? = some w → D.Makes h tr w.link w.execution

section

variable {D d : Dispatch} {x : Execution} {tr tr' : List (JobDeed σ)}

theorem Dispatch.Makes.append (hm : D.Makes h tr d x) (tr' : List (JobDeed σ)) :
    D.Makes h (tr ++ tr') d x := by
  obtain ⟨e, he, hp⟩ := hm.filled
  exact ⟨hm.link, hm.offers, e, List.mem_append_left _ he, hp⟩

theorem Dispatch.Makes.next (hm : D.Makes h tr d x) : D.Makes h tr d x.next :=
  ⟨hm.link, hm.offers, hm.filled⟩

theorem Stage.of_ofDispatch (h : Host σ) (D : Dispatch) (tr : List (JobDeed σ)) :
    (resting (.ofDispatch D)).Of h D tr :=
  ⟨fun _ hd => hd, fun _ hw => (nomatch hw)⟩

theorem Stage.of_landed (h : Host σ) (D : Dispatch) (tr : List (JobDeed σ))
    (result : Except ActionError Unit) : (resting (.landed result)).Of h D tr :=
  ⟨fun _ hd => (nomatch hd), fun _ hw => (nomatch hw)⟩

/-- **What a move calls is made by the dispatch of its flight.** -/
theorem Move.makes {s e ds s' e'} (m : Move h now s e ds s' e') (hs : s.Of h D tr)
    (hx : .called d x ∈ ds) : D.Makes h (tr ++ ds.map (.done e)) d x := by
  cases m with
  | @begin d' rest _ verb y _ hc hv hb =>
    obtain ⟨rfl, rfl⟩ : d = d' ∧ x = y := by simpa using hx
    obtain rfl := congrArg Prod.fst hb
    exact ⟨hs.links d List.mem_cons_self, rfl, e, by simp [Engine.begun, Engine.begin], rfl⟩
  | @retry d' rest y =>
    obtain ⟨rfl, rfl⟩ : d = d' ∧ x = y.next := by simpa using hx
    exact (hs.underWay _ rfl).next.append _
  | @again d' rest y wake =>
    obtain ⟨rfl, rfl⟩ : d = d' ∧ x = y.next := by simpa using hx
    exact (hs.underWay _ rfl).next.append _
  | _ => simp at hx

/-- A move goes on with the flight of its dispatch. -/
theorem Move.stage_of {s e ds s' e'} (m : Move h now s e ds s' e') (hs : s.Of h D tr) :
    s'.Of h D (tr ++ ds.map (.done e)) := by
  refine ⟨fun d hd => hs.links d (m.links d hd), fun w hw => ?_⟩
  rcases m.trying.effort hw with hx | ⟨due, hold⟩
  · exact m.makes hs hx
  · exact (hs.underWay _ hold).append _

/-- **What is told of a job comes from its dispatches**: they are what the override is asked about,
and make what is called. -/
structure Told (h : Host σ) (dispatches : List Dispatch) (tr : List (JobDeed σ)) : Prop where
  asked : ∀ a o, .asked a o ∈ tr → ∃ D ∈ dispatches, a = D.raw ∧ o = D.overlay
  called : ∀ e d x, .done e (.called d x) ∈ tr → ∃ D ∈ dispatches, D.Makes h tr d x

variable {dispatches : List Dispatch}

/-- What is told stays told, and more may be added that is of the dispatches. -/
theorem Told.append (ht : Told h dispatches tr)
    (ha : ∀ a o, .asked a o ∈ tr' → ∃ D ∈ dispatches, a = D.raw ∧ o = D.overlay)
    (hc : ∀ e d x, .done e (.called d x) ∈ tr' → ∃ D ∈ dispatches, D.Makes h (tr ++ tr') d x) :
    Told h dispatches (tr ++ tr') := by
  refine ⟨fun a o hm => ?_, fun e d x hm => ?_⟩
  · exact (List.mem_append.1 hm).elim (ht.asked a o) (ha a o)
  · rcases List.mem_append.1 hm with hm | hm
    · obtain ⟨D, hD, hmakes⟩ := ht.called e d x hm
      exact ⟨D, hD, hmakes.append tr'⟩
    · exact hc e d x hm

/-- **What a run tells comes from the dispatch of its flight**, move by move. -/
theorem Told.flies {s e f e'} (r : Flies h now s e tr' f e') (ht : Told h dispatches tr)
    (hD : D ∈ dispatches) (hs : s.Of h D tr) :
    Told h dispatches (tr ++ tr') ∧ (Stage.resting f).Of h D (tr ++ tr') := by
  induction r generalizing tr with
  | rest _ =>
    rw [List.append_nil]
    exact ⟨ht, hs⟩
  | @move s e ds s' e' tr' f e'' m r ih =>
    rw [← List.append_assoc]
    refine ih (ht.append (fun a o hm => ?_) fun e₁ d x hm => ?_) (m.stage_of hs)
    · simp at hm
    · obtain ⟨deed, hx, heq⟩ := List.mem_map.1 hm
      obtain ⟨rfl, rfl⟩ := JobDeed.done.inj heq
      exact ⟨D, hD, m.makes hs hx⟩

/-- What is left of a job is of its dispatches. -/
def JobState.Of (h : Host σ) (dispatches : List Dispatch) (tr : List (JobDeed σ)) :
    JobState → Prop
  | .underWay f rest =>
    (∃ D ∈ dispatches, (Stage.resting f).Of h D tr) ∧ ∀ d ∈ rest, d ∈ dispatches
  | .ended _ => True

namespace Session

theorem of_beginDispatch (s : Session σ) (door : Door) (d : Dispatch) (h : Host σ)
    (tr : List (JobDeed σ)) : (Stage.resting (s.beginDispatch door d).1).Of h d tr := by
  rw [beginDispatch.eq_def]
  split
  · simp only []
    split
    · exact Stage.of_landed h d tr _
    · exact Stage.of_ofDispatch h d tr
    · exact Stage.of_ofDispatch h d tr
  · exact Stage.of_ofDispatch h d tr

/-- What the override is asked is the dispatch that begins. -/
theorem told_asks (s : Session σ) (door : Door) (hD : D ∈ dispatches) (ht : Told h dispatches tr) :
    Told h dispatches (tr ++ s.asks door D) := by
  rw [asks.eq_def]
  split
  · refine ht.append (fun a o hm => ⟨D, hD, ?_⟩) fun e d x hm => ?_
    · simpa using hm
    · simp at hm
  · rwa [List.append_nil]

/-- **What a poll of a job tells comes from its dispatches**, flight by flight. -/
theorem Goes.told {door heeded f rest out} {s : Session σ}
    (g : Goes h now door heeded f rest s tr' out) (ht : Told h dispatches tr)
    (hD : D ∈ dispatches) (hf : (Stage.resting f).Of h D tr) (hrest : ∀ d ∈ rest, d ∈ dispatches) :
    Told h dispatches (tr ++ tr') ∧ JobState.Of h dispatches (tr ++ tr') out.1 := by
  induction g generalizing tr D with
  | waits r _ =>
    obtain ⟨ht, hof⟩ := ht.flies r hD hf
    exact ⟨ht, ⟨D, hD, hof⟩, hrest⟩
  | ended r => exact ⟨(ht.flies r hD hf).1, trivial⟩
  | @next f d rest tr₁ result e' s' begun tr₂ out s r _ hb g ih =>
    obtain ⟨ht, -⟩ := ht.flies r hD hf
    have hd : d ∈ dispatches := hrest d List.mem_cons_self
    rw [← List.append_assoc, ← List.append_assoc]
    refine ih (s'.told_asks door hd ht) hd ?_ fun d hd => hrest d (List.mem_cons_of_mem _ hd)
    rw [← hb]
    exact s'.of_beginDispatch door d h _

/-- A job that begins asks about its first dispatch, and tells no more. -/
theorem told_beginJob (s : Session σ) (h : Host σ) (heeded : Bool) (dispatches : List Dispatch) :
    Told h dispatches (dispatches.head?.toList.flatMap (s.asks .session))
      ∧ JobState.Of h dispatches (dispatches.head?.toList.flatMap (s.asks .session))
        (s.beginJob .session heeded dispatches).1.state := by
  have hnil : Told h dispatches [] := ⟨fun _ _ hm => (nomatch hm), fun _ _ _ hm => (nomatch hm)⟩
  cases dispatches with
  | nil => exact ⟨hnil, trivial⟩
  | cons d rest =>
    simp only [List.head?_cons, Option.toList_some, List.flatMap_cons, List.flatMap_nil,
      List.append_nil]
    refine ⟨s.told_asks .session List.mem_cons_self hnil, ⟨d, List.mem_cons_self, ?_⟩, ?_⟩
    · exact s.of_beginDispatch .session d h _
    · exact fun d hd => List.mem_cons_of_mem _ hd

end Session

/-- **All that comes of an event comes from what its handler dispatches.** -/
theorem Handler.Course.told {handler : Handler} {value : Option Json} {j : Job}
    (c : Course h handler value tr j) :
    Told h (handler.dispatches value) tr
      ∧ JobState.Of h (handler.dispatches value) tr j.state := by
  induction c with
  | begin s =>
    cases handler with
    | inert => exact s.told_beginJob h true []
    | resetBoundary => exact s.told_beginJob h true []
    | bound b => exact s.told_beginJob h _ _
  | @poll tr j c now s f rest tr' out hj g ih =>
    obtain ⟨ht, hof⟩ := ih
    rw [hj] at hof
    obtain ⟨⟨D, hD, hf⟩, hrest⟩ := hof
    exact g.told ht hD hf hrest

end

/-! ## What a link is given -/

/-- **A link says what an action of the chain says**, with the overlay and the value of its
dispatch. -/
theorem Dispatch.of_mem_links {D d : Dispatch} (hd : d ∈ D.links) :
    (∃ a ∈ D.action.chain, d.action.payload = a.payload) ∧ d.overlay = D.overlay
      ∧ d.input = D.input := by
  obtain ⟨i, hi⟩ := List.getElem?_of_mem hd
  rw [links, linksFrom_getElem?] at hi
  obtain ⟨a, ha, rfl⟩ := Option.map_eq_some_iff.1 hi
  exact ⟨⟨a, List.mem_of_getElem? ha, rfl⟩, rfl, rfl⟩

namespace Binding

/-- The actions that the value of an event goes to. -/
def actions (b : Binding) : List Action :=
  (b.meaning.map (·.stateUpdate b.componentId)).toList ++ b.declared.toList

/-- What is dispatched with a value that is captured carries it, and no overlay. -/
theorem of_mem_dispatches {b : Binding} (hb : b.capturesValue = true) {v : Json} {D : Dispatch}
    (hD : D ∈ (Handler.bound b).dispatches (some v)) :
    D.action ∈ b.actions ∧ D.overlay = none ∧ D.input = some v := by
  obtain ⟨declared, captures, meaning, componentId, sink⟩ := b
  obtain rfl : captures = true := hb
  cases meaning <;> cases declared <;>
    simp [Handler.dispatches, echo, main, actions] at hD ⊢
  · simp [hD]
  · simp [hD]
  · rcases hD with rfl | rfl <;> simp

end Binding

/-- **The value of an event reaches verbs and the override as it is**, by way of the actions that it
goes to and those that stand in for them. -/
structure Verbatim (h : Host σ) (b : Binding) (v : Json) (tr : List (JobDeed σ)) : Prop where
  /-- Each attempt is given the value under its key; beside it stands what the link declares, filled
  in in the data as it was when the link was executed. -/
  called : ∀ e d x, .done e (.called d x) ∈ tr → ∃ a ∈ b.actions, ∃ link ∈ a.chain,
    d.action.payload = link.payload ∧ ∃ e₀, .done e₀ (.executed d (some x.verb)) ∈ tr
      ∧ x.input.payload.get? "value" = some v
      ∧ ∀ key, key ≠ "value" → x.input.payload.get? key
        = (Json.interpolateFields e₀.context.data link.payload).get? key
  /-- The override is given the payload as it is declared, with the value. -/
  asked : ∀ action overlay, .asked action overlay ∈ tr → overlay = none
    ∧ ∃ a ∈ b.actions, action = { a with payload := a.payload.insert "value" v }
  /-- What keeps the value in the host's state hands it on as it is. -/
  mirrored : ∀ e d x (m : InputMeaning), .done e (.called d x) ∈ tr →
    d.action = m.stateUpdate b.componentId → x.verb = Verb.updateState → h.offers .state = true →
    x.verb x.input = .call (.dispatch ⟨"state/update", .obj [(m.stateKey, v)]⟩) Script.asReplied

/-- What the action that keeps a value is given: the key of the meaning, and the value. -/
theorem InputMeaning.filled_stateUpdate (m : InputMeaning) (componentId : Option String)
    (context v : Json) :
    (Json.interpolateFields context (m.stateUpdate componentId).payload).insert "value" v
      = [("key", .str m.stateKey), ("value", v)] := by
  have hkey : Template.expand context m.stateKey = .str m.stateKey :=
    Template.expand_of_no_open (by cases m <;> simp [stateKey])
  simp only [stateUpdate, Json.interpolateFields, Json.interpolate, hkey]
  rfl

/-- The built-in verb for the state hands on a value under its key. -/
theorem Verb.updateState_of_payload {i : VerbInput} {key : String} {v : Json}
    (hp : i.payload = [("key", .str key), ("value", v)]) (ho : i.offers .state = true) :
    Verb.updateState i
      = .call (.dispatch ⟨Verb.stateUpdate, .obj [(key, v)]⟩) Script.asReplied := by
  have hupdates : updatesOf i = .ok (.obj [(key, v)]) := by
    simp [updatesOf, VerbInput.optional, VerbInput.valueOr, hp, Keyed.get?, Json.str?]
  rw [updateState, hupdates, VerbInput.need, if_pos ho]
  rfl

variable {tr : List (JobDeed σ)} {j : Job} {b : Binding} {v : Json}

/-- **All that comes of an event whose value is captured gives it on as it is.** -/
theorem Handler.Course.verbatim (hb : b.capturesValue = true)
    (c : Course h (.bound b) (some v) tr j) : Verbatim h b v tr := by
  have ht := c.told.1
  have hfilled {e : Engine σ} {d : Dispatch} {x : Execution} (hx : .done e (.called d x) ∈ tr) :
      ∃ D : Dispatch, D.action ∈ b.actions ∧ d ∈ D.links ∧ x.input.offers = h.offers
        ∧ ∃ e₀, .done e₀ (.executed d (some x.verb)) ∈ tr ∧ x.input.payload
          = (Json.interpolateFields e₀.context.data d.action.payload).insert "value" v := by
    obtain ⟨D, hD, hmakes⟩ := ht.called e d x hx
    obtain ⟨ha, hover, hinput⟩ := Binding.of_mem_dispatches hb hD
    obtain ⟨-, hover', hinput'⟩ := Dispatch.of_mem_links hmakes.link
    obtain ⟨e₀, he₀, hp⟩ := hmakes.filled
    refine ⟨D, ha, hmakes.link, hmakes.offers, e₀, he₀, ?_⟩
    rw [hp, Engine.payloadIn, hinput', hinput, hover', hover, Context.snapshot_none]
  refine ⟨fun e d x hx => ?_, fun action overlay ha => ?_, fun e d x m hx hm hv ho => ?_⟩
  · obtain ⟨D, ha, hlink, -, e₀, he₀, hp⟩ := hfilled hx
    obtain ⟨⟨link, hchain, hpayload⟩, -, -⟩ := Dispatch.of_mem_links hlink
    refine ⟨D.action, ha, link, hchain, hpayload, e₀, he₀, ?_, fun key hkey => ?_⟩
    · rw [hp, Keyed.get?_insert_self]
    · rw [hp, Keyed.get?_insert_of_ne _ _ (Ne.symm hkey), hpayload]
  · obtain ⟨D, hD, rfl, rfl⟩ := ht.asked action overlay ha
    obtain ⟨hact, hover, hinput⟩ := Binding.of_mem_dispatches hb hD
    exact ⟨hover, D.action, hact, by rw [Dispatch.raw, hinput]⟩
  · obtain ⟨D, -, -, hoffers, e₀, -, hp⟩ := hfilled hx
    rw [hv]
    exact Verb.updateState_of_payload (by rw [hp, hm, m.filled_stateUpdate]) (by rw [hoffers, ho])

/-- What a handler does that captures no value does not depend on one. -/
theorem Session.beginHandler_of_blind {t : Session σ} (hb : b.capturesValue = false)
    (hm : b.meaning = none) (v w : Option Json) :
    t.beginHandler (.bound b) v = t.beginHandler (.bound b) w := by
  simp [beginHandler, Binding.echo, Binding.main, hb, hm]

/-- **What is typed reaches verbs as it is.**  A handler that shows for an event that carries a
value is bound by a node of the tree, or by one that was taken for it; and whatever happens to the
session once it is triggered with a value, the override and each attempt of each link are given
that value as it is.  What any other handler does is the same for all values. -/
theorem Session.Grown.typed_verbatim {s : Session σ} (g : s.Grown) (hf : BindNothing s.primitives)
    {tree : List Node} {overlay : Option Json} {event : String} {handler : Handler}
    (hh : Element.AnyHandles (s.render tree overlay).1.elements event handler) :
    (event ∈ valueEvents → ∃ m ∈ Node.allIn tree, ∃ n : Node, n.TakenFor m ∧ ∃ context sink b,
        b = n.binding (n.meaning (n.propsIn context)) sink event ∧ handler = .bound b
        ∧ ∀ v tr j, handler.Course h (some v) tr j → Verbatim h b v tr)
      ∧ (event ∉ valueEvents → ∀ (t : Session σ) (v w : Option Json),
        t.beginHandler handler v = t.beginHandler handler w) := by
  rcases g.render_bound hf hh with ⟨rfl, rfl⟩ | ⟨m, hm, n, htaken, context, sink, rfl⟩
  · exact ⟨fun he => absurd he (by decide), fun _ t v w => rfl⟩
  · refine ⟨fun he => ⟨m, hm, n, htaken, context, sink, _, rfl, rfl, fun v tr j c => ?_⟩,
      fun he t v w => ?_⟩
    · exact c.verbatim (List.contains_iff_mem.2 he)
    · refine beginHandler_of_blind ?_ ?_ v w
      · exact Bool.eq_false_iff.2 fun hcontains => he (List.contains_iff_mem.1 hcontains)
      · exact if_neg fun heq => he (by rw [heq]; exact List.mem_cons_self)

/-! ## A placeholder that is typed stays one -/

/-- A field for a phone number. -/
def phoneField : Node := { kind := "TextInput", id := some "phone" }

/-- What the field does with what is typed. -/
def phoneBinding : Binding where
  declared := none
  capturesValue := true
  meaning := some .phone
  componentId := some "phone"
  sink := Session.sink

/-- A session that has a secret. -/
def keepingSecret : Session Store :=
  .new .standard {} (Context.empty.set "token" (.str "secret")) []

theorem phoneField_handles :
    Element.AnyHandles (keepingSecret.render [phoneField] none).1.elements "onChangeText"
      (.bound phoneBinding) := by
  have hdraft : (keepingSecret.render [phoneField] none).1.elements
      = [phoneField.draft keepingSecret.engine.patterns
          (.ofContext keepingSecret.engine.context none Session.sink) []] := rfl
  have hmeaning : phoneField.meaning [] = some .phone := by decide +kernel
  have hhandlers : phoneField.handlers [] Session.sink
      = [("onChangeText", .bound phoneBinding)] := by
    rw [Node.handlers, hmeaning]
    rfl
  rw [hdraft]
  exact ⟨_, List.mem_cons_self, congrArg (Keyed.get? · "onChangeText") hhandlers⟩

/-- The host's state is updated with what is typed, at once. -/
theorem course_phone (typed : Json) : ∃ (tr : List (JobDeed Store)) (j : Job) (e : Engine Store)
    (d : Dispatch) (x : Execution),
    Handler.Course Console.host (.bound phoneBinding) (some typed) tr j ∧ .done e (.called d x) ∈ tr
      ∧ d.action = InputMeaning.phone.stateUpdate (some "phone") ∧ x.verb = Verb.updateState := by
  let update : Dispatch :=
    { action := InputMeaning.phone.stateUpdate (some "phone"), input := some typed }
  let e₁ := keepingSecret.engine.mark update
  let begun := e₁.begun Console.host 0 update Verb.updateState
  let call : Call := .dispatch ⟨"state/update", .obj [("phoneNumber", typed)]⟩
  let e₂ := (begun.2.note (.called call)).withHost begun.2.host
  have henter : Move Console.host 0 (.resting (.ofDispatch update)) keepingSecret.engine
      [.arrived update] (.admitted update []) e₁ := .enter rfl
  have hpass : Move Console.host 0 (.admitted update []) e₁ [] (.ready update []) e₁ :=
    .pass rfl nofun
  have hbegin : Move Console.host 0 (.ready update []) e₁
      [.executed update (some Verb.updateState), .called update begun.1]
      (.running update [] begun.1 (Verb.updateState begun.1.input)) begun.2 := .begin rfl rfl rfl
  have hscript : Verb.updateState begun.1.input = .call call Script.asReplied :=
    Verb.updateState_of_payload (InputMeaning.phone.filled_stateUpdate (some "phone") _ typed) rfl
  have hcall : Move Console.host 0 (.running update [] begun.1 (.call call Script.asReplied))
      begun.2 [] (.running update [] begun.1 (.done (.ok ()))) e₂ := .call rfl rfl
  have hsucceed : Move Console.host 0 (.running update [] begun.1 (.done (.ok ()))) e₂
      [.returned update begun.1 (.ok ())] (.ended (.ok ()))
      (Engine.settle Console.host 0 update begun.1 (.ok ()) e₂).2 := .succeed
  rw [hscript] at hbegin
  have r := Flies.move henter (.move hpass (.move hbegin (.move hcall (.move hsucceed
    (.rest (Flight.waits_landed _))))))
  have c : Handler.Course Console.host (.bound phoneBinding) (some typed) [] _ :=
    .begin keepingSecret
  exact ⟨_, _, e₁, update, begun.1, c.poll 0 keepingSecret rfl (.ended r), by simp, rfl, rfl⟩

/-- What is typed reads like a template, and reaches the host's state as it is. -/
theorem typed_verbatim_phone : ∃ (tr : List (JobDeed Store)) (j : Job) (e : Engine Store)
    (d : Dispatch) (x : Execution),
    Element.AnyHandles (keepingSecret.render [phoneField] none).1.elements "onChangeText"
        (.bound phoneBinding)
      ∧ Handler.Course Console.host (.bound phoneBinding) (some (.str "\x7b\x7btoken\x7d\x7d")) tr j
      ∧ .done e (.called d x) ∈ tr
      ∧ x.verb x.input = .call (.dispatch ⟨"state/update",
          .obj [("phoneNumber", .str "\x7b\x7btoken\x7d\x7d")]⟩) Script.asReplied := by
  obtain ⟨tr, j, e, d, x, c, hx, hd, hv⟩ := course_phone (.str "\x7b\x7btoken\x7d\x7d")
  have hgrown : keepingSecret.Grown := .begin rfl
  obtain ⟨m, -, n, -, context, sink, b, -, hb, hall⟩ := (hgrown.typed_verbatim
    (h := Console.host) Primitive.builtins_bindNothing phoneField_handles).1 (by decide)
  obtain rfl := Handler.bound.inj hb
  have hreplied := (hall _ _ _ c).mirrored e d x .phone hx hd hv rfl
  exact ⟨tr, j, e, d, x, phoneField_handles, c, hx, hreplied⟩

end RemoteScreen
