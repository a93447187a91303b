import RemoteScreen.Host.Console
import RemoteScreen.Library.Standard
import RemoteScreen.Proofs.Engine.AtOnce
import RemoteScreen.Proofs.Json.Records
import RemoteScreen.Proofs.Template.Exact
import RemoteScreen.Proofs.Template.Fixed
import RemoteScreen.Proofs.Verb.Form

/-!
# Proofs/Verb/Field — a field of a form, with its value given by template or by path

    value: "\x7b\x7bform.phone\x7d\x7d"  ──filled in──▸  value: "555"  ──┐
                                                                 ├──checked──▸ one verdict
    path: "form.phone"  ──────────looked up──────────▸  "555"  ──┘

Two ways to say where the value of a field comes from meet in the check.  By template the engine
looks the path up when it fills in the payload; by path the check does.  **What is found is checked
alike** (`agrees`, `checked_alike`).  The ways part where nothing is found: then the placeholder is
left as it is, and its own text is checked (`apart_unresolved`).
-/

namespace RemoteScreen

open Json.Source

/-- What stands at a path is in order if the whole is. -/
theorem Json.Ordered.of_resolve {path : String} {v r : Json} (hv : v.Ordered)
    (h : v.resolve path = some r) : r.Ordered := by
  refine resolve_keeps (fun fields m hm hf => ?_) (fun items x hx hi => ?_) hv h
  · cases hf with
    | obj _ hfields => exact hfields m hm
  · cases hi with
    | arr hitems => exact hitems x hx

namespace Template

/-- The text of the placeholder of a path. -/
def written (p : String) : String := "\x7b\x7b" ++ p ++ "\x7d\x7d"

/-- **The placeholder of a path stands for what is found there**, or for itself. -/
theorem expand_written {p : String} (hp : IsBody p.toList) (context : Json) :
    expand context (written p) = (context.resolve p).getD (.str (written p)) := by
  have hpieces : pieces (written p).toList = [.hole p.toList] :=
    pieces_eq_hole_iff.2 ⟨hp, by simp [written, Piece.source]⟩
  rw [expand, hpieces]
  simp only [String.ofList_toList]

end Template

/-- A field as a payload says it, without where its value comes from. -/
structure WrittenField where
  name : String
  label : Option Json := none
  rules : Option Json := none
  message : Option Json := none

namespace WrittenField

/-- The field with a value, or with a path. -/
def toJson (w : WrittenField) (value path : Option Json) : Json :=
  .obj (Keyed.ofPresent
    [("name", some (.str w.name)), ("value", value), ("path", path), ("label", w.label),
     ("rules", w.rules), ("message", w.message)])

end WrittenField

namespace FormField

theorem decode_ofPresent (name value path label rules message : Option Json) :
    decode (.ofJson (.obj (Keyed.ofPresent
      [("name", name), ("value", value), ("path", path), ("label", label), ("rules", rules),
       ("message", message)]))) = do
      let label ← member label none (·.optional string)
      let message ← member message none (·.optional string)
      let name ← member name none fun t => return some (← t.string)
      let path ← member path none (·.optional string)
      let rules ← member rules {} FieldRules.decode
      let value ← member value none (·.optional Json.Source.value)
      let name ← (Ending.object none).require layout "name" name
      return { name, value, path, label, rules, message } := by
  rw [decode, record_ofPresent _ rfl (by decide)]
  simp only [Keyed.ofList, Keyed.insertAll, List.foldl_cons, List.foldl_nil, Keyed.insert,
    String.reduceEq, String.reduceLT, ↓reduceIte, List.foldlM_cons, List.foldlM_nil]
  simp only [bind_assoc, Decoding.ok_bind, pure_bind]
  rw [offer_eq_member label rfl, bind_assoc]
  refine bind_congr fun label => ?_
  rw [Decoding.ok_bind, offer_eq_member message rfl, bind_assoc]
  refine bind_congr fun message => ?_
  rw [Decoding.ok_bind, offer_eq_member_some (fun n (d : Draft) => { d with name := n }) name rfl,
    bind_assoc]
  refine bind_congr fun name => ?_
  rw [Decoding.ok_bind, offer_eq_member path rfl, bind_assoc]
  refine bind_congr fun path => ?_
  rw [Decoding.ok_bind, offer_eq_member rules rfl, bind_assoc]
  refine bind_congr fun rules => ?_
  rw [Decoding.ok_bind, offer_eq_member value rfl, bind_assoc]
  refine bind_congr fun value => ?_
  rw [Decoding.ok_bind]

end FormField

namespace WrittenField

variable (w : WrittenField) (data : Json)

/-- A written field is interpolated member by member. -/
theorem interpolate_toJson (value path : Option Json) :
    Json.interpolate data (w.toJson value path) = .obj (Keyed.ofPresent
      [("name", some (Json.interpolate data (.str w.name))),
       ("value", value.map (Json.interpolate data)), ("path", path.map (Json.interpolate data)),
       ("label", w.label.map (Json.interpolate data)),
       ("rules", w.rules.map (Json.interpolate data)),
       ("message", w.message.map (Json.interpolate data))]) := by
  change Json.obj (Json.interpolateFields data _) = _
  rw [Json.interpolateFields_eq_map, Keyed.map_ofPresent]
  rfl

/-- What is read of a field, its templates filled in. -/
def read (value path : Option Json) : Decoding FormField :=
  FormField.decode (.ofJson (Json.interpolate data (w.toJson value path)))

variable {w data}

/-- Reading a field with a value adds the value to what is read without it. -/
theorem read_value {v filled : Json} (hv : Json.interpolate data v = filled) (ho : filled.Ordered) :
    w.read data (some v) none
      = (w.read data none none).map fun f =>
        { f with value := (some filled).filter (!·.isNull) } := by
  have hvalue : member (some filled) none (·.optional value)
      = .ok ((some filled).filter (!·.isNull)) := by
    change (ofJson filled).optional value = _
    rw [Json.Source.optional, isNull_ofJson, value_ofJson ho, Option.filter_some]
    cases filled.isNull <;> rfl
  rw [read, read, interpolate_toJson, interpolate_toJson, FormField.decode_ofPresent,
    FormField.decode_ofPresent, Option.map_some, hv, hvalue]
  simp only [Option.map_none, member, Decoding.ok_bind, Decoding.map_bind]
  rfl

/-- Reading a field with a path adds the path. -/
theorem read_path {p : String} (hp : Json.interpolate data (.str p) = .str p) :
    w.read data none (some (.str p))
      = (w.read data none none).map fun f => { f with path := some p } := by
  have hpath : member (some (.str p)) none (·.optional string) = .ok (some p) := rfl
  rw [read, read, interpolate_toJson, interpolate_toJson, FormField.decode_ofPresent,
    FormField.decode_ofPresent, Option.map_some, hp, hpath]
  simp only [Option.map_none, member, Decoding.ok_bind, Decoding.map_bind]
  rfl

/-- What is read of a field without a value or a path has none, and its rules are those that are
written. -/
theorem of_read {f : FormField} (h : w.read data none none = .ok f) :
    f.value = none ∧ f.path = none
      ∧ ∀ r ∈ w.rules, FieldRules.decode (.ofJson (Json.interpolate data r)) = .ok f.rules := by
  rw [read, interpolate_toJson, FormField.decode_ofPresent] at h
  obtain ⟨label, -, h⟩ := Decoding.bind_eq_ok.1 h
  obtain ⟨message, -, h⟩ := Decoding.bind_eq_ok.1 h
  obtain ⟨name, -, h⟩ := Decoding.bind_eq_ok.1 h
  obtain ⟨path, hpath, h⟩ := Decoding.bind_eq_ok.1 h
  obtain ⟨rules, hrules, h⟩ := Decoding.bind_eq_ok.1 h
  obtain ⟨value, hvalue, h⟩ := Decoding.bind_eq_ok.1 h
  obtain ⟨name, -, h⟩ := Decoding.bind_eq_ok.1 h
  cases h
  refine ⟨(Except.ok.inj hvalue).symm, (Except.ok.inj hpath).symm, fun r hr => ?_⟩
  rw [Option.mem_def] at hr
  rwa [hr] at hrules

/-- The rules of the field require a value. -/
def Requires (w : WrittenField) : Prop :=
  ∃ rules, w.rules = some (.obj rules) ∧ ("required", .bool true) ∈ rules

theorem required_of_read (hw : w.Requires) {f : FormField} (h : w.read data none none = .ok f) :
    f.rules.required = true := by
  obtain ⟨rules, hrules, hmem⟩ := hw
  obtain ⟨-, -, hr⟩ := of_read h
  have hdecode := hr _ hrules
  change FieldRules.decode (.ofJson (.obj (Json.interpolateFields data rules))) = _ at hdecode
  rw [Json.interpolateFields_eq_map, FieldRules.decode] at hdecode
  obtain ⟨⟨r, ending⟩, hrecord, hdecode⟩ := Decoding.bind_eq_ok.1 hdecode
  obtain ⟨-, -, hdecode⟩ := Decoding.bind_eq_ok.1 hdecode
  cases hdecode
  refine record_takes (P := fun r : FieldRules => r.required = true) hrecord (k := "required")
    (x := .bool true) (by decide) (List.mem_map_of_mem hmem) (fun r r' hr => ?_)
    fun m hm hne r r' hr hf => ?_
  · cases hr
    rfl
  · split at hf
    · next heq => exact absurd heq hne
    · obtain ⟨n, -, rfl⟩ := Decoding.return_eq_ok.1 hf
      exact hr
    · obtain ⟨n, -, rfl⟩ := Decoding.return_eq_ok.1 hf
      exact hr
    · obtain ⟨n, -, rfl⟩ := Decoding.return_eq_ok.1 hf
      exact hr
    · obtain ⟨n, -, rfl⟩ := Decoding.return_eq_ok.1 hf
      exact hr
    · cases hf
      exact hr

end WrittenField

/-! ## What the check says -/

namespace FormField

/-- What the check of a form of one field says, when the field is read so. -/
def verdict (patterns : Patterns) (data : Json) : Decoding FormField → Except VerbError Unit
  | .error err => .error (.invalidField "fields" err.message)
  | .ok f =>
    match f.violation patterns data with
    | .error err => .error err
    | .ok none => .ok ()
    | .ok (some complaint) => .error (.validation complaint)

/-- A required field without text is refused. -/
theorem verdict_of_blank {patterns : Patterns} {data : Json} (f : FormField)
    (hr : f.rules.required = true)
    (hb : Text.trim (textOf (f.valueIn data)).toList = []) :
    ∃ err, verdict patterns data (.ok f) = .error err := by
  have hcomplaint : f.textComplaint patterns (textOf (f.valueIn data))
      = .ok (some (f.title ++ " is required")) := by
    simp [textComplaint, hb, hr]
  have hviolation : ∃ m, f.violation patterns data = .ok (some m) := by
    rw [violation, hcomplaint]
    exact ⟨_, rfl⟩
  obtain ⟨m, hm⟩ := hviolation
  rw [verdict, hm]
  exact ⟨_, rfl⟩

end FormField

/-- The verb sees the data as they are and gives the verdict on its one field. -/
theorem Verb.seeing_validateForm (patterns : Patterns) {i : VerbInput} {j data : Json}
    (hi : i.payload.get? "fields" = some (.arr [j])) :
    (validateForm patterns i).seeing data
      = some (FormField.verdict patterns data (FormField.decode (.ofJson j))) := by
  have hlist : FormField.listOfJson (.arr [j])
      = FormField.decode (.ofJson j) >>= fun f => .ok [f] := by
    rw [FormField.listOfJson, listOf_arr, List.mapM_cons, List.mapM_nil]
    rfl
  cases hf : FormField.decode (.ofJson j) with
  | error err =>
    have hfields : fieldsOf i = .error (.invalidField "fields" err.message) := by
      rw [fieldsOf, hi]
      dsimp only
      rw [hlist, hf]
      rfl
    rw [validateForm, Script.seeing_withValue, hfields]
    rfl
  | ok f =>
    have hfields : fieldsOf i = .ok [f] := by
      rw [fieldsOf, hi]
      dsimp only
      rw [hlist, hf]
      rfl
    rw [seeing_validateForm_fields patterns hfields, violations, FormField.verdict]
    cases f.violation patterns data with
    | error err => rfl
    | ok v => cases v <;> rfl

namespace WrittenField

variable {σ : Type} {w : WrittenField} {patterns : Patterns} {data : Json} {p : String}

/-- The dispatch that checks a form of one field, with a value or with a path. -/
def dispatch (w : WrittenField) (value path : Option Json) : Dispatch :=
  .bare "validateForm" [("fields", .arr [w.toJson value path])]

/-- What becomes of the dispatch. -/
def outcome (w : WrittenField) (patterns : Patterns) (data : Json) (value path : Option Json) :
    Except ActionError Unit :=
  (FormField.verdict patterns data (w.read data value path)).mapError .verb

/-- **Dispatched on an idle engine, the field is judged in one poll.** -/
theorem poll_dispatch (h : Host σ) (now : Nat) {e : Engine σ} {value path : Option Json}
    (hidle : e.isMarked (w.dispatch value path) = false)
    (hverb : e.verbs.get? "validateForm" = some (Verb.validateForm patterns)) :
    ((Flight.ofDispatch (w.dispatch value path)).poll h now e).1
      = .landed (w.outcome patterns e.context.data value path) :=
  Flight.poll_bare h now hidle hverb (Verb.seeing_validateForm patterns rfl)

/-- Nothing but null has the name of the field. -/
def Alone (w : WrittenField) (data : Json) : Prop :=
  ∀ f, w.read data none none = .ok f → (data.resolve f.name).getD .null = .null

/-- What is found at a path has no text to check. -/
def Blank (found : Json) : Prop := Text.trim (FormField.textOf found).toList = []

/-- What is said of a field whose value comes by the template of a path, and by the path. -/
structure Agrees (w : WrittenField) (patterns : Patterns) (data : Json) (p : String)
    (byTemplate byPath : Except ActionError Unit) : Prop where
  /-- What is found at the path is checked alike, null if nothing else has the name of the field. -/
  found : ∀ v, data.resolve p = some v → (v = .null → w.Alone data) → byTemplate = byPath
  /-- Where nothing is found, the text of the placeholder is what is checked. -/
  missing : data.resolve p = none → byTemplate = ((FormField.verdict patterns data
    ((w.read data none none).map fun f =>
      { f with value := some (.str (Template.written p)) })).mapError .verb)
  /-- A required field is refused for what is blank. -/
  template : w.Requires → ∀ v, data.resolve p = some v → (v = .null → w.Alone data) → Blank v →
    ∃ err, byTemplate = .error err
  /-- By its path it is refused for nothing too. -/
  path : w.Requires → Blank ((data.resolve p).getD .null) → ∃ err, byPath = .error err

/-- Of where a value comes from, only the value is checked. -/
theorem verdict_congr {f : FormField} {value value' : Option Json} {path path' : Option String}
    (h : FormField.valueIn { f with value, path } data
      = FormField.valueIn { f with value := value', path := path' } data) :
    FormField.verdict patterns data (.ok { f with value, path })
      = FormField.verdict patterns data (.ok { f with value := value', path := path' }) := by
  have hviolation : FormField.violation patterns { f with value, path } data
      = FormField.violation patterns { f with value := value', path := path' } data := by
    rw [FormField.violation, FormField.violation, h]
    rfl
  rw [FormField.verdict, FormField.verdict, hviolation]

theorem valueIn_path {f : FormField} (hf : f.value = none) :
    FormField.valueIn { f with path := some p } data = (data.resolve p).getD .null := by
  rw [FormField.valueIn, hf]
  rfl

variable (w)

/-- **A value given by template is checked like one given by path**, but where the path leads
nowhere, and where null lets something else in that has the name of the field. -/
theorem agrees (hp : Template.IsBody p.toList) (hdata : data.Ordered) :
    w.Agrees patterns data p (w.outcome patterns data (some (.str (Template.written p))) none)
      (w.outcome patterns data none (some (.str p))) := by
  have hread {v : Json} (hv : (data.resolve p).getD (.str (Template.written p)) = v)
      (ho : v.Ordered) : w.read data (some (.str (Template.written p))) none
        = (w.read data none none).map fun f =>
          { f with value := (some v).filter (!·.isNull) } :=
    read_value ((Template.expand_written hp data).trans hv) ho
  have hpath : w.read data none (some (.str p))
      = (w.read data none none).map fun f => { f with path := some p } :=
    read_path (Template.expand_of_no_open fun hopen =>
      absurd (hp.plain _ hopen) (by decide))
  have hfound : ∀ v, data.resolve p = some v → (v = .null → w.Alone data) →
      w.outcome patterns data (some (.str (Template.written p))) none
        = w.outcome patterns data none (some (.str p)) := by
    intro v hv halone
    rw [outcome, outcome, hread (by rw [hv]; rfl) (hdata.of_resolve hv), hpath]
    cases hsaid : w.read data none none with
    | error err => rfl
    | ok f =>
      obtain ⟨hvalue, hnopath, -⟩ := of_read hsaid
      refine congrArg (Except.mapError ActionError.verb) (verdict_congr ?_)
      rw [valueIn_path hvalue, hv, Option.getD_some]
      by_cases hnull : v = .null
      · subst hnull
        have hname := halone rfl f hsaid
        rw [FormField.valueIn, hnopath]
        exact hname
      · have hkept : (some v).filter (!·.isNull) = some v := by
          cases v <;> first | rfl | exact absurd rfl hnull
        rw [hkept]
        rfl
  have hblank : w.Requires → Blank ((data.resolve p).getD .null) →
      ∃ err, w.outcome patterns data none (some (.str p)) = .error err := by
    intro hw hb
    rw [outcome, hpath]
    cases hsaid : w.read data none none with
    | error err => exact ⟨_, rfl⟩
    | ok f =>
      obtain ⟨hvalue, -, -⟩ := of_read hsaid
      have hrequired := required_of_read hw hsaid
      rw [Blank, ← valueIn_path hvalue] at hb
      obtain ⟨err, herr⟩ := FormField.verdict_of_blank { f with path := some p } hrequired hb
      refine ⟨.verb err, ?_⟩
      rw [Except.map, herr]
      rfl
  refine ⟨hfound, fun hnone => ?_, fun hw v hv halone hb => ?_, hblank⟩
  · rw [outcome, hread (v := .str (Template.written p)) (by rw [hnone]; rfl) (.str _)]
    rfl
  · rw [hfound v hv halone]
    exact hblank hw (by rwa [hv])

/-- **Dispatches that check a field given by template, and the same field given by path, come to the
same** where the path leads to a value; what they come to where it does not is another matter. -/
theorem checked_alike (h : Host σ) (now : Nat) {e : Engine σ} (hp : Path.segments p ≠ [])
    (hplain : ∀ c ∈ p.toList, Template.isBrace c = false) (hdata : e.context.data.Ordered)
    (hverb : e.verbs.get? "validateForm" = some (Verb.validateForm patterns))
    (htemplate : e.isMarked (w.dispatch (some (.str (Template.written p))) none) = false)
    (hpath : e.isMarked (w.dispatch none (some (.str p))) = false) :
    ∃ byTemplate byPath,
      ((Flight.ofDispatch (w.dispatch (some (.str (Template.written p))) none)).poll h now e).1
        = .landed byTemplate
      ∧ ((Flight.ofDispatch (w.dispatch none (some (.str p)))).poll h now e).1 = .landed byPath
      ∧ w.Agrees patterns e.context.data p byTemplate byPath := by
  have hne : p.toList ≠ [] := by
    rintro hnil
    rw [String.toList_eq_nil_iff.1 hnil] at hp
    exact hp rfl
  exact ⟨_, _, poll_dispatch h now htemplate hverb, poll_dispatch h now hpath hverb,
    w.agrees ⟨hne, hplain⟩ hdata⟩

/-- A field that has to have a value. -/
def phone : WrittenField :=
  { name := "phone", rules := some (.obj [("required", .bool true)]) }

/-- Blanks are refused either way. -/
theorem checked_alike_blank :
    let e : Engine Store := .new .standard {} ⟨1, .obj [("form", .obj [("phone", .str " ")])]⟩ []
    ∃ err,
      ((Flight.ofDispatch (phone.dispatch (some (.str (Template.written "form.phone"))) none)).poll
          Console.host 0 e).1 = .landed (.error err)
        ∧ ((Flight.ofDispatch (phone.dispatch none (some (.str "form.phone")))).poll
          Console.host 0 e).1 = .landed (.error err) := by
  intro e
  have hphone : (Json.obj [("phone", .str " ")]).Ordered :=
    .obj (List.pairwise_singleton _ _) (List.forall_mem_singleton.2 (.str _))
  have hdata : e.context.data.Ordered :=
    .obj (List.pairwise_singleton _ _) (List.forall_mem_singleton.2 hphone)
  have hplain : "form.phone".toList.all (!Template.isBrace ·) = true := by decide +kernel
  obtain ⟨byTemplate, byPath, htemplate, hpath, hagrees⟩ :=
    phone.checked_alike Console.host 0 (e := e) (p := "form.phone") (by decide +kernel)
      (fun c hc => by simpa only [Bool.not_eq_true'] using List.all_eq_true.1 hplain c hc) hdata
      rfl rfl rfl
  have hfound : e.context.data.resolve "form.phone" = some (.str " ") := by decide +kernel
  have hrequires : phone.Requires := ⟨_, rfl, List.mem_singleton_self _⟩
  have hblank : Blank (.str " ") := by rw [Blank]; decide +kernel
  obtain ⟨err, herr⟩ := hagrees.template hrequires _ hfound nofun hblank
  have hsame := hagrees.found _ hfound nofun
  rw [herr] at htemplate hsame
  rw [← hsame] at hpath
  exact ⟨err, htemplate, hpath⟩

/-- **What does not resolve is let through by template**, since the placeholder stays and is not
blank; by path it is refused. -/
theorem apart_unresolved :
    let e : Engine Store := .new .standard {} .empty []
    ((Flight.ofDispatch (phone.dispatch (some (.str (Template.written "form.phone"))) none)).poll
        Console.host 0 e).1 = .landed (.ok ())
      ∧ ((Flight.ofDispatch (phone.dispatch none (some (.str "form.phone")))).poll
        Console.host 0 e).1 = .landed (.error (.verb (.validation "phone is required"))) := by
  intro e
  have hverb : e.verbs.get? "validateForm" = some (Verb.validateForm Pattern.dialect) := rfl
  have htemplate : phone.outcome Pattern.dialect e.context.data
      (some (.str (Template.written "form.phone"))) none = .ok () := by decide +kernel
  have hpath : phone.outcome Pattern.dialect e.context.data none (some (.str "form.phone"))
      = .error (.verb (.validation "phone is required")) := by decide +kernel
  rw [poll_dispatch _ _ rfl hverb, poll_dispatch _ _ rfl hverb, htemplate, hpath]
  exact ⟨rfl, rfl⟩

end WrittenField

end RemoteScreen
