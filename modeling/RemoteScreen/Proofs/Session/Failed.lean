import RemoteScreen.Library.Standard
import RemoteScreen.Proofs.Context.Access
import RemoteScreen.Proofs.Render.Alike
import RemoteScreen.Proofs.Session.Transparent

/-!
# Proofs/Session/Failed — a failed screen says its message

    failed m ──▸ Text of ‹error.message› ──over the data with error.message = m──▸ Text of m

A failed screen without a tree of its own shows one text, whose only placeholder stands for the
message.  What comes in is not looked at again, what is laid over the data hides what the data has
under the same key, and a result is kept under the overlay that it was worked out with: so **the
text is the message, whatever it looks like and whatever has been rendered before**, and screens
that show later find nothing of it (`Life.says_message`).
-/

namespace RemoteScreen

/-! ## What is kept, whatever is rendered -/

/-- What is kept is what equal nodes show, in the data as it is now or as it has been. -/
def Memo.Faithful (rules : RenderRules) (c : Context) (memo : Memo) : Prop :=
  ∃ past, ∃ h : Context.Past past c, memo.Like rules (.ofPast h)

namespace Memo.Faithful

variable {rules : RenderRules} {c c' : Context} {memo : Memo}

theorem nil (rules : RenderRules) (c : Context) : Faithful rules c [] :=
  ⟨[c], .start c, Memo.like_nil⟩

theorem writes (hm : Faithful rules c memo) (hw : Context.Writes c c') :
    Faithful rules c' memo := by
  obtain ⟨past, h, hl⟩ := hm
  obtain ⟨past', hsub, h'⟩ := h.writes hw
  refine ⟨past', h', hl.mono ?_⟩
  rintro scope ⟨p, hp, o, rfl⟩
  exact ⟨p, hsub p hp, o, rfl⟩

/-- **A tree shows what an equal one shows with nothing kept, and the memo stays faithful.** -/
theorem renderTree {s : RenderState} (hm : Faithful rules c s.memo) (overlay : Option Json)
    (tree : List Node) :
    let scope := Scope.ofContext c overlay Session.sink
    (∃ like, Node.sameAll like tree = true
        ∧ (RemoteScreen.renderTree rules scope tree s).1 = elementsAt rules scope 0 like)
      ∧ Faithful rules c (RemoteScreen.renderTree rules scope tree s).2.memo := by
  obtain ⟨past, h, hl⟩ := hm
  have hscope : (Scopes.ofPast h).mem (.ofContext c overlay Session.sink) :=
    ⟨c, h.now, overlay, rfl⟩
  obtain ⟨hout, hl'⟩ := renderTree_alike hscope tree hl
  exact ⟨hout, past, h, hl'⟩

end Memo.Faithful

/-! ## The tree of a failed screen -/

namespace Screen

/-- The element that says why a screen has failed. -/
def notice (message : String) : Element :=
  { kind := "Text", key := some "screen-error", props := [("text", .str message)] }

/-- The text of the tree is one placeholder. -/
theorem expand_message (context : Json) {message : String}
    (h : context.resolve "error.message" = some (.str message)) :
    Template.expand context "\x7b\x7berror.message\x7d\x7d" = .str message := by
  have hpieces : Template.pieces "\x7b\x7berror.message\x7d\x7d".toList
      = [.hole "error.message".toList] := by decide +kernel
  rw [Template.expand, hpieces]
  simp only [String.ofList_toList, h, Option.getD_some]

/-- Where the message is to be found, the tree shows it. -/
theorem elementsAt_failedTree {rules : RenderRules} (hp : rules.primitives = Primitive.builtins)
    (hd : 1 ≤ rules.config.maxDepth) {scope : Scope} {message : String}
    (h : scope.context.resolve "error.message" = some (.str message)) :
    elementsAt rules scope 0 failedTree = .ok [notice message] := by
  have hknown : rules.primitives.get? "Text" = some Primitive.text := by rw [hp]; rfl
  have hprops : Json.interpolateFields scope.context
      [("text", .str "\x7b\x7berror.message\x7d\x7d")] = [("text", .str message)] := by
    rw [Json.interpolateFields, Json.interpolate, expand_message _ h, Json.interpolateFields]
  refine elementsAt_cons_eq_ok.2 ⟨some (notice message), ?_, [], rfl, rfl⟩
  refine (elementAt_open_eq_ok (by omega) rfl hknown).2 ⟨[], rfl, notice message, ?_, rfl⟩
  have hdraft : Node.draft (((Node.new "Text").withId "screen-error").withProp "text"
      (.str "\x7b\x7berror.message\x7d\x7d")) rules.patterns scope [] = notice message := by
    simp only [Node.draft, Node.propsIn]
    exact congrArg (fun props => ({ notice message with props } : Element)) hprops
  rw [hdraft]
  rfl

/-- **No other tree is equal to this one as data**: there is no number in it. -/
theorem eq_failedTree {like : List Node} (h : Node.sameAll like failedTree = true) :
    like = failedTree := by
  match like with
  | [] => cases h
  | ⟨_, _, _, _, _, _, ⟨_, _, _, _⟩⟩ :: others =>
    have hprops : Keyed.insert "text" (Json.str "\x7b\x7berror.message\x7d\x7d") []
        = [("text", .str "\x7b\x7berror.message\x7d\x7d")] := rfl
    simp only [failedTree, Node.new, Node.withId, Node.withProp, Node.sameAll, Node.same,
      Guards.same, hprops, Bool.and_eq_true, beq_iff_eq, sameOption_none_iff, sameEntries_nil_iff,
      Json.sameFields_nil_iff, Json.sameFields_str_iff, Node.sameAll_nil_iff] at h
    obtain ⟨⟨⟨⟨⟨⟨⟨rfl, rfl⟩, rfl⟩, rfl⟩, rfl⟩, rfl⟩, ⟨⟨rfl, rfl⟩, rfl⟩, rfl⟩, rfl⟩ := h
    rfl

/-- What is laid over the data hides what the data has under the same key. -/
theorem resolve_overlay {c : Context} (hc : ∃ fields, c.data = .obj fields) (message : String) :
    (c.snapshot (overlayFor (.failed message))).resolve "error.message" = some (.str message) := by
  obtain ⟨fields, hfields⟩ := hc
  have hsegments : Path.segments "error.message" = ["error", "message"] := by decide +kernel
  have hget : Keyed.get? (Keyed.insertAll fields [("error", Json.obj [("message", .str message)])])
      "error" = some (.obj [("message", .str message)]) := by
    rw [Keyed.get?_insertAll]
    rfl
  rw [Context.snapshot, hfields, overlayFor, layer, Json.resolve, hsegments]
  simp only [Json.at?, hget]
  rfl

end Screen

namespace Session

variable {σ : Type}

/-! ## A session with a past -/

/-- **What can happen to a session**: it renders any tree under any overlay, or goes on in another
way. -/
inductive Turn : Session σ → Session σ → Prop where
  | render (tree : List Node) (overlay : Option Json) {s} : Turn s (s.render tree overlay).2
  | step {s s'} (t : Step s s') : Turn s s'

/-- What happens to a session in the course of time, whatever is rendered. -/
inductive Life : Session σ → Session σ → Prop where
  | refl {s} : Life s s
  | tail {s s' s''} (l : Life s s') (t : Turn s' s'') : Life s s''

/-- What a session keeps is faithful, and its data is an object. -/
structure Lived (s : Session σ) : Prop where
  memo : s.memo.Faithful s.rules s.engine.context
  data : ∃ fields, s.engine.context.data = .obj fields

theorem Turn.rules {s s' : Session σ} (t : Turn s s') : s'.rules = s.rules := by
  cases t with
  | render tree overlay => exact (s.render_frame tree overlay).2
  | step t => exact t.rules

theorem Life.rules {s s' : Session σ} (l : Life s s') : s'.rules = s.rules := by
  induction l with
  | refl => rfl
  | tail _ t ih => exact t.rules.trans ih

/-- A new session has lived. -/
theorem lived_of_new {s : Session σ} {data : Json} (hm : s.memo = [])
    (hdata : s.engine.context = .ofJson data) : s.Lived where
  memo := hm ▸ .nil _ _
  data := hdata ▸ Context.exists_obj_ofJson data

/-- Writes alone leave a session as it should be. -/
theorem Lived.writes {s s' : Session σ} (hs : s.Lived) (hmemo : s'.memo = s.memo)
    (hrules : s'.rules = s.rules) (hw : Context.Writes s.engine.context s'.engine.context) :
    s'.Lived where
  memo := hmemo ▸ hrules ▸ hs.memo.writes hw
  data := hw.exists_obj hs.data

/-- So does whatever is rendered. -/
theorem Lived.render {s : Session σ} (hs : s.Lived) (tree : List Node) (overlay : Option Json) :
    (s.render tree overlay).2.Lived := by
  obtain ⟨hcontext, hrules⟩ := s.render_frame tree overlay
  refine ⟨?_, hcontext ▸ hs.data⟩
  rw [hrules, hcontext]
  cases hb : s.boundary with
  | clear =>
    rw [(render_of_clear hb tree overlay).2.1]
    exact (Memo.Faithful.renderTree (s := { memo := s.memo }) hs.memo overlay tree).2
  | tripped message =>
    rw [(render_of_tripped hb tree overlay).2]
    exact hs.memo

/-- A turn of a session leaves it one that has lived. -/
theorem Lived.turn {s s' : Session σ} (hs : s.Lived) (t : Turn s s') : s'.Lived := by
  cases t with
  | render tree overlay => exact hs.render tree overlay
  | step t =>
    cases t with
    | render tree overlay => exact hs.render tree overlay
    | write w => exact hs.writes rfl rfl w.writes
    | resetBoundary => exact hs.writes rfl rfl .refl
    | clearCache => exact ⟨.nil _ _, hs.data⟩
    | act hw hp => exact hs.writes rfl (Step.act hw hp).rules hw

/-- So does a whole life. -/
theorem Life.lived {s s' : Session σ} (l : Life s s') (hs : s.Lived) : s'.Lived := by
  induction l with
  | refl => exact hs
  | tail _ t ih => exact ih.turn t

/-- **What a session renders**: what an equal tree shows in the data with the overlay on top, with
nothing kept. -/
theorem Lived.rendering_eq {s : Session σ} (hs : s.Lived) (tree : List Node)
    (overlay : Option Json) :
    ∃ like, Node.sameAll like tree = true
      ∧ (s.rendering tree overlay).1
        = elementsAt s.rules (.ofData (s.engine.context.snapshot overlay) sink) 0 like := by
  obtain ⟨⟨like, hlike, hout⟩, -⟩ :=
    Memo.Faithful.renderTree (s := { memo := s.memo }) hs.memo overlay tree
  refine ⟨like, hlike, hout.trans ?_⟩
  exact elementsAt_congr (by rfl) (by rfl) 0 like

/-! ## A failed screen -/

/-- What a session shows of a screen that has failed, and what comes of it. -/
structure Fails (s : Session σ) (screen : Screen) (message : String) : Prop where
  /-- One text shows, which is the message. -/
  output : (s.renderScreen screen (.failed message)).1 = .tree [Screen.notice message]
  said : (Screen.notice message).kind = "Text" ∧ (Screen.notice message).text = some message
  /-- The shared data is left as it is, and so is its revision. -/
  context : (s.renderScreen screen (.failed message)).2.engine.context = s.engine.context
  boundary : (s.renderScreen screen (.failed message)).2.boundary = .clear
  /-- Whatever happens then, a screen that is ready shows what an equal one shows in the shared data
  alone, with nothing kept. -/
  ready : ∀ later, Life (s.renderScreen screen (.failed message)).2 later →
    later.boundary = .clear → ∀ next : Screen, ∃ like,
      Node.sameAll like next.components = true
        ∧ (later.renderScreen next .ready).1 = (Boundary.contain
            (elementsAt later.rules (.ofData later.engine.context.data sink) 0 like)).output

/-- **A failed screen says its message**, whatever the message looks like, whatever the data has
under the key of the overlay, and whatever has been rendered before. -/
theorem Life.says_message {s₀ s : Session σ} {data : Json} (hm : s₀.memo = [])
    (hp : s₀.primitives = Primitive.builtins) (hd : 1 ≤ s₀.renderer.maxDepth)
    (hdata : s₀.engine.context = .ofJson data) (l : Life s₀ s) (hb : s.boundary = .clear)
    {screen : Screen} (hs : screen.failed = none) (message : String) :
    s.Fails screen message := by
  have hlived := l.lived (lived_of_new hm hdata)
  have hrules : s.rules = ⟨Primitive.builtins, s₀.renderer, s₀.engine.patterns⟩ :=
    l.rules.trans (congrArg (RenderRules.mk · s₀.renderer s₀.engine.patterns) hp)
  have htree : screen.treeFor (.failed message) = Screen.failedTree := by
    rw [Screen.treeFor, hs, Option.getD_none]
  obtain ⟨like, hlike, hout⟩ :=
    hlived.rendering_eq Screen.failedTree (Screen.overlayFor (.failed message))
  rw [Screen.eq_failedTree hlike, hrules, Screen.elementsAt_failedTree rfl hd
    (Screen.resolve_overlay hlived.data message)] at hout
  obtain ⟨hshown, -, hbound⟩ :=
    render_of_clear hb Screen.failedTree (Screen.overlayFor (.failed message))
  rw [hout] at hshown hbound
  refine ⟨?_, ⟨rfl, rfl⟩, (s.render_frame _ _).1, ?_, fun later l' hb' next => ?_⟩
  · rw [renderScreen, htree, hshown]
    rfl
  · rw [renderScreen, htree, hbound]
    rfl
  · have hlater := l'.lived (hlived.render (screen.treeFor (.failed message)) _)
    obtain ⟨like, hlike, hout⟩ := hlater.rendering_eq next.components none
    rw [Context.snapshot_none] at hout
    refine ⟨like, hlike, ?_⟩
    rw [renderScreen, (render_of_clear hb' _ _).1]
    exact congrArg (fun r => (Boundary.contain r).output) hout

/-- Data with an error of its own. -/
def oldError : Json := .obj [("error", .obj [("message", .str "of old")]), ("pin", .str "1234")]

/-- A session with this data. -/
def faulty : Session Unit := .new .standard {} (.ofJson oldError) ()

/-- A screen that shows the error in the data. -/
def report : Screen := { components := Screen.failedTree }

/-- After another failure, a message that looks like a template shows as it is, and the error in the
data shows again behind it. -/
theorem says_message_pin :
    let s := (faulty.renderScreen {} (.failed "no network")).2
    let failed := s.renderScreen {} (.failed "\x7b\x7bpin\x7d\x7d \"x\"")
    s.memo.length = 1
      ∧ failed.1.elements.map Element.text = [some "\x7b\x7bpin\x7d\x7d \"x\""]
      ∧ (failed.2.renderScreen report .ready).1.elements.map Element.text = [some "of old"] := by
  have hlife : Life faulty (faulty.renderScreen {} (.failed "no network")).2 :=
    .tail .refl (.render _ _)
  have hdata : faulty.engine.context = .ofJson oldError := rfl
  have hscreen : ({} : Screen).failed = none := rfl
  have hfails := hlife.says_message rfl rfl (by decide) hdata rfl hscreen
    "\x7b\x7bpin\x7d\x7d \"x\""
  refine ⟨by decide +kernel, ?_, by decide +kernel⟩
  rw [hfails.output]
  rfl

end Session

end RemoteScreen
