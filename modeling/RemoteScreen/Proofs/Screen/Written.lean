import RemoteScreen.Screen
import RemoteScreen.Proofs.Node.Written

/-!
# Proofs/Screen/Written — screens that are written and read

Conditions, actions, trees and screens may be written in several ways: as objects or as lists of
their fields, with null for what is absent, a tree as one node or as a list.  **What was read of any
of them is read back from what is written of it, and written the same again** (`normal_form`).
-/

namespace RemoteScreen

open Json.Source

namespace Screen

/-- The nodes of a screen are settled. -/
structure Settled (s : Screen) : Prop where
  components : ∀ n ∈ s.components, n.Settled
  loading : ∀ ns ∈ s.loading, ∀ n ∈ ns, n.Settled
  failed : ∀ ns ∈ s.failed, ∀ n ∈ ns, n.Settled

/-- Every node of a decoded tree is settled. -/
theorem settled_of_decodeTree {j : Json} {o : Option (List Node)}
    (h : decodeTree (.ofJson j) = .ok o) : ∀ ns ∈ o, ∀ n ∈ ns, n.Settled := by
  obtain ⟨v, -, h⟩ := Decoding.bind_eq_ok.1 h
  split at h
  · cases h
    exact forall_mem_none _
  · obtain ⟨ns, hns, rfl⟩ := Decoding.return_eq_ok.1 h
    intro ms hms
    cases hms
    exact Node.settled_of_treeOfJson hns

/-- **What is read is settled.** -/
theorem settled_of_ofJson {j : Json} {s : Screen} (h : ofJson j = .ok s) : s.Settled := by
  rw [ofJson, decode] at h
  obtain ⟨⟨d, ending⟩, hd, h⟩ := Decoding.bind_eq_ok.1 h
  cases h
  have hinit : Settled {} :=
    ⟨List.forall_mem_nil _, forall_mem_none _, forall_mem_none _⟩
  refine record_keeps hd hinit fun k x d d' _ hs hf => ?_
  split at hf
  · obtain ⟨components, hcomponents, rfl⟩ := Decoding.return_eq_ok.1 hf
    exact { hs with
      components := listOf_forall hcomponents fun y n _ hn => Node.settled_of_ofJson hn }
  · obtain ⟨loading, hloading, rfl⟩ := Decoding.return_eq_ok.1 hf
    exact { hs with loading := settled_of_decodeTree hloading }
  · obtain ⟨failed, hfailed, rfl⟩ := Decoding.return_eq_ok.1 hf
    exact { hs with failed := settled_of_decodeTree hfailed }
  · cases hf
    exact hs

/-- The tree of a state is taken in as it was written. -/
theorem offer_tree {o : Option (List Node)} (ho : ∀ ns ∈ o, ∀ n ∈ ns, n.Settled) {d : Screen}
    {put : Option (List Node) → Screen → Screen} (hput : put none d = d) :
    offer (o.map fun ns => .arr (Node.listToJson ns))
        (fun t d => do return put (← decodeTree t) d) d
      = .ok (put o d) := by
  cases o with
  | none => exact congrArg Except.ok hput.symm
  | some ns =>
    have htree : decodeTree (.ofJson (.arr (Node.listToJson ns))) = .ok (some ns) := by
      rw [decodeTree, value_ofJson (Node.ordered_listToJson (ho ns rfl)), Decoding.ok_bind]
      exact Decoding.return_eq_ok.2 ⟨ns, Node.treeOfJson_listToJson (ho ns rfl), rfl⟩
    rw [Option.map_some, offer_required htree]

/-- **A screen that was read is read back as it is.** -/
theorem Settled.ofJson_toJson {s : Screen} (h : s.Settled) : ofJson s.toJson = .ok s := by
  rw [ofJson, decode, toJson, record_ofPresent _ rfl (by decide)]
  simp only [Keyed.ofList, Keyed.insertAll, List.foldl_cons, List.foldl_nil, Keyed.insert,
    String.reduceEq, String.reduceLT, ↓reduceIte, List.foldlM_cons, List.foldlM_nil]
  rw [Node.listToJson_eq_map, offer_list _ fun n hn => (h.components n hn).ofJson_toJson,
    Decoding.ok_bind, List.map_id', offer_tree h.failed rfl, Decoding.ok_bind,
    offer_tree h.loading rfl]
  rfl

end Screen

/-- Whatever is decoded is decoded again from how it is written, and written the same again. -/
def ReadsBack {α : Type} (decode : Json → Decoding α) (encode : α → Json) : Prop :=
  ∀ j a, decode j = .ok a →
    decode (encode a) = .ok a ∧ (decode (encode a)).map encode = .ok (encode a)

theorem ReadsBack.of_decode {α : Type} {decode : Json → Decoding α} {encode : α → Json}
    (h : ∀ j a, decode j = .ok a → decode (encode a) = .ok a) : ReadsBack decode encode :=
  fun j a ha => ⟨h j a ha, by rw [h j a ha]; rfl⟩

/-- **What is written is a normal form**, of conditions, actions, trees and screens: it is read as
what it was written of, however that was written before, and written the same again. -/
theorem normal_form :
    ReadsBack Condition.ofJson Condition.toJson ∧ ReadsBack Action.ofJson Action.toJson
      ∧ ReadsBack Node.treeOfJson (fun ns => .arr (Node.listToJson ns))
      ∧ ReadsBack Screen.ofJson Screen.toJson :=
  ⟨.of_decode fun _ _ h => (Condition.settled_of_ofJson h).ofJson_toJson,
    .of_decode fun _ _ h => (Action.settled_of_ofJson h).ofJson_toJson,
    .of_decode fun _ _ h => Node.treeOfJson_listToJson (Node.settled_of_treeOfJson h),
    .of_decode fun _ _ h => (Screen.settled_of_ofJson h).ofJson_toJson⟩

/-- A condition as a list of its fields. -/
def filledIn : Json :=
  .arr [.str "and", .null, .null, .arr [.obj [("operator", .str "exists"), ("field", .str "name")]]]

/-- An action as a list of its fields, with a fallback. -/
def submit : Json :=
  .arr [.str "submitForm", .obj [], filledIn, .ofNat 50, .null, .obj [("delay", .ofNat 10)],
    .arr [.str "log"]]

/-- A node as an object, its members out of order. -/
def signup : Json :=
  .obj [("type", .str "Form"), ("id", .null),
    ("children", .arr [.arr [.str "Button", .str "go", .obj [("b", .null), ("a", .bool true)]]]),
    ("actions", .obj [("onSubmit", submit)])]

/-- A screen as a list of its fields, with one node for while it loads and null for failure. -/
def welcome : Json := .arr [.arr [signup], signup, .null]

/-- **A screen, its tree, an action and a condition come to rest after one reading.** -/
theorem normal_form_welcome :
    (∃ c, Condition.ofJson filledIn = .ok c ∧ Condition.ofJson c.toJson = .ok c)
      ∧ (∃ a, Action.ofJson submit = .ok a ∧ Action.ofJson a.toJson = .ok a)
      ∧ (∃ ns, Node.treeOfJson signup = .ok ns
          ∧ Node.treeOfJson (.arr (Node.listToJson ns)) = .ok ns)
      ∧ ∃ s, Screen.ofJson welcome = .ok s ∧ Screen.ofJson s.toJson = .ok s
          ∧ (Screen.ofJson s.toJson).map Screen.toJson = .ok s.toJson := by
  obtain ⟨c, hc⟩ :=
    Decoding.exists_of_isOk (by decide +kernel : (Condition.ofJson filledIn).isOk = true)
  obtain ⟨a, ha⟩ :=
    Decoding.exists_of_isOk (by decide +kernel : (Action.ofJson submit).isOk = true)
  obtain ⟨ns, hns⟩ :=
    Decoding.exists_of_isOk (by decide +kernel : (Node.treeOfJson signup).isOk = true)
  obtain ⟨s, hs⟩ :=
    Decoding.exists_of_isOk (by decide +kernel : (Screen.ofJson welcome).isOk = true)
  obtain ⟨hcondition, haction, htree, hscreen⟩ := normal_form
  exact ⟨⟨c, hc, (hcondition _ _ hc).1⟩, ⟨a, ha, (haction _ _ ha).1⟩,
    ⟨ns, hns, (htree _ _ hns).1⟩, s, hs, hscreen _ _ hs⟩

end RemoteScreen
