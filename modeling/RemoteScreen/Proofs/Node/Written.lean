import RemoteScreen.Node.Codec
import RemoteScreen.Proofs.Action.Written

/-!
# Proofs/Node/Written — nodes that are written and read

**A node that was read is read back as it is** (`Node.Settled.ofJson_toJson`), with its guards, its
actions and the tree of its children, and so is a list of nodes.
-/

namespace RemoteScreen

open Json.Source

/-! ## Guards -/

namespace Guards

/-- The conditions of guards are settled. -/
structure Settled (g : Guards) : Prop where
  «show» : ∀ c ∈ g.show, c.Settled
  hide : ∀ c ∈ g.hide, c.Settled
  enable : ∀ c ∈ g.enable, c.Settled
  disable : ∀ c ∈ g.disable, c.Settled

theorem settled_empty : Settled {} :=
  ⟨forall_mem_none _, forall_mem_none _, forall_mem_none _,
    forall_mem_none _⟩

/-- Decoded guards are settled. -/
theorem settled_of_decode {j : Json} {g : Guards} (h : decode (.ofJson j) = .ok g) :
    g.Settled := by
  rw [decode] at h
  obtain ⟨⟨d, ending⟩, hd, h⟩ := Decoding.bind_eq_ok.1 h
  cases h
  refine record_keeps hd settled_empty fun k x g g' _ hs hf => ?_
  have hread : ∀ {o : Option Condition}, (Json.Source.ofJson x).optional Condition.decode = .ok o →
      ∀ c ∈ o, c.Settled := fun ho c hc => Condition.settled_of_ofJson (of_optional ho c hc).2
  split at hf
  · obtain ⟨o, ho, rfl⟩ := Decoding.return_eq_ok.1 hf
    exact { hs with «show» := hread ho }
  · obtain ⟨o, ho, rfl⟩ := Decoding.return_eq_ok.1 hf
    exact { hs with hide := hread ho }
  · obtain ⟨o, ho, rfl⟩ := Decoding.return_eq_ok.1 hf
    exact { hs with enable := hread ho }
  · obtain ⟨o, ho, rfl⟩ := Decoding.return_eq_ok.1 hf
    exact { hs with disable := hread ho }
  · cases hf
    exact hs

/-- **Settled guards are read back as they were written.** -/
theorem Settled.decode_toJson {g : Guards} (h : g.Settled) : decode (.ofJson g.toJson) = .ok g := by
  have hback : ∀ {o : Option Condition}, (∀ c ∈ o, c.Settled) →
      ∀ c ∈ o, Condition.decode (.ofJson c.toJson) = .ok c := fun ho c hc => (ho c hc).ofJson_toJson
  rw [decode, toJson, record_ofPresent _ rfl (by decide)]
  simp only [Keyed.ofList, Keyed.insertAll, List.foldl_cons, List.foldl_nil, Keyed.insert,
    String.reduceEq, String.reduceLT, ↓reduceIte, List.foldlM_cons, List.foldlM_nil]
  rw [offer_optional _ (hback h.disable) Condition.isNull_toJson rfl, Decoding.ok_bind,
    offer_optional _ (hback h.enable) Condition.isNull_toJson rfl, Decoding.ok_bind,
    offer_optional _ (hback h.hide) Condition.isNull_toJson rfl, Decoding.ok_bind,
    offer_optional _ (hback h.show) Condition.isNull_toJson rfl]
  rfl

theorem Settled.ordered_toJson {g : Guards} (h : g.Settled) : g.toJson.Ordered := by
  have hord : ∀ {o : Option Condition}, (∀ c ∈ o, c.Settled) →
      ∀ c ∈ o, c.toJson.Ordered := fun ho c hc => (ho c hc).ordered.toJson
  refine Json.ordered_ofPresent ?_
  simp only [List.forall_mem_cons, List.not_mem_nil, false_imp_iff, implies_true, and_true]
  exact ⟨Json.ordered_map (hord h.show), Json.ordered_map (hord h.hide),
    Json.ordered_map (hord h.enable), Json.ordered_map (hord h.disable)⟩

end Guards

/-! ## Nodes -/

namespace Node

/-- A node as it is read: what it is made of is settled, and so are its children. -/
inductive Settled : Node → Prop where
  | mk {n : Node} (props : (Json.obj n.props).Ordered) (style : (Json.obj n.style).Ordered)
      (children : ∀ m ∈ n.children, Settled m) (order : n.actions.Ordered)
      (actions : ∀ a ∈ n.actions, a.2.Settled) (guards : n.guards.Settled) : Settled n

/-- What is in a node on its way in is settled. -/
structure Draft.Settled (d : Draft) : Prop where
  props : (Json.obj d.props).Ordered
  style : (Json.obj d.style).Ordered
  children : ∀ m ∈ d.children, m.Settled
  order : d.actions.Ordered
  actions : ∀ a ∈ d.actions, a.2.Settled
  guards : d.guards.Settled

/-- **What is read is settled.** -/
theorem settled_of_ofJson {j : Json} {n : Node} (h : ofJson j = .ok n) : n.Settled := by
  induction j using Json.induction_size generalizing n with
  | step j ih =>
    rw [ofJson, decode] at h
    obtain ⟨⟨d, ending⟩, hd, h⟩ := Decoding.bind_eq_ok.1 h
    obtain ⟨kind, -, h⟩ := Decoding.bind_eq_ok.1 h
    cases h
    have hinit : Draft.Settled {} :=
      ⟨Json.ordered_empty, Json.ordered_empty, List.forall_mem_nil _, Keyed.ordered_nil,
        List.forall_mem_nil _, Guards.settled_empty⟩
    have hdraft : d.Settled := by
      refine record_keeps hd hinit fun k x d d' hx hs hf => ?_
      split at hf
      · obtain ⟨kind, -, rfl⟩ := Decoding.return_eq_ok.1 hf
        exact { hs with }
      · obtain ⟨id, -, rfl⟩ := Decoding.return_eq_ok.1 hf
        exact { hs with }
      · obtain ⟨props, hprops, rfl⟩ := Decoding.return_eq_ok.1 hf
        exact { hs with props := fields_ordered hprops }
      · obtain ⟨style, hstyle, rfl⟩ := Decoding.return_eq_ok.1 hf
        exact { hs with style := fields_ordered hstyle }
      · obtain ⟨children, hchildren, rfl⟩ := Decoding.return_eq_ok.1 hf
        exact { hs with
          children := listOf_forall hchildren fun y m hy hm => ih _ (Nat.lt_trans hy hx) hm }
      · obtain ⟨actions, hactions, rfl⟩ := Decoding.return_eq_ok.1 hf
        have hall : ∀ a ∈ actions, a.2.Settled :=
          mapOf_forall hactions fun y a _ ha => Action.settled_of_ofJson ha
        exact { hs with
          order := Keyed.ordered_ofList actions
          actions := fun a ha => hall a (Keyed.mem_ofList ha) }
      · obtain ⟨guards, hguards, rfl⟩ := Decoding.return_eq_ok.1 hf
        exact { hs with guards := Guards.settled_of_decode hguards }
      · cases hf
        exact hs
    exact .mk hdraft.props hdraft.style hdraft.children hdraft.order hdraft.actions hdraft.guards

/-- Nodes are written one by one. -/
theorem listToJson_eq_map (ns : List Node) : listToJson ns = ns.map toJson := by
  induction ns with
  | nil => rfl
  | cons n ns ih => rw [listToJson, ih, List.map_cons]

/-- What is written of a node, member by member. -/
theorem toJson_eq (n : Node) :
    n.toJson = .obj (Keyed.ofPresent
      [("type", some (.str n.kind)), ("id", n.id.map .str), ("props", some (.obj n.props)),
       ("style", some (.obj n.style)), ("children", some (.arr (n.children.map toJson))),
       ("actions", some (.obj (n.actions.map fun a => (a.1, a.2.toJson)))),
       ("conditions", some n.guards.toJson)]) := by
  cases n
  rw [toJson, listToJson_eq_map]

/-- **A node that was read is read back as it is.** -/
theorem Settled.ofJson_toJson {n : Node} (h : n.Settled) : ofJson n.toJson = .ok n := by
  induction h with
  | @mk n props style _ order actions guards ih =>
    have hactions : n.actions.foldl (fun as a => Keyed.insert a.1 a.2 as) [] = n.actions :=
      order.ofList_eq
    rw [ofJson, decode, toJson_eq, record_ofPresent _ rfl (by decide)]
    simp only [Keyed.ofList, Keyed.insertAll, List.foldl_cons, List.foldl_nil, Keyed.insert,
      String.reduceEq, String.reduceLT, ↓reduceIte, List.foldlM_cons, List.foldlM_nil]
    rw [offer_map _ fun a ha => (actions a ha).ofJson_toJson, Decoding.ok_bind, hactions,
      offer_list _ ih, Decoding.ok_bind, List.map_id',
      offer_required guards.decode_toJson, Decoding.ok_bind,
      offer_optional _ (fun s _ => string_ofJson s) (fun _ => rfl) rfl, Decoding.ok_bind,
      offer_required (fields_ofJson props), Decoding.ok_bind,
      offer_required (fields_ofJson style), Decoding.ok_bind,
      offer_required (string_ofJson n.kind)]
    cases n
    rfl

/-- What is written of a settled node is in order. -/
theorem Settled.ordered_toJson {n : Node} (h : n.Settled) : n.toJson.Ordered := by
  induction h with
  | @mk n props style _ order actions guards ih =>
    have hactions : (Json.obj (n.actions.map fun a => (a.1, a.2.toJson))).Ordered :=
      .obj (List.pairwise_map.2 order)
        (List.forall_mem_map.2 fun a ha => (actions a ha).ordered_toJson)
    rw [toJson_eq]
    refine Json.ordered_ofPresent ?_
    simp only [List.forall_mem_cons, List.not_mem_nil, false_imp_iff, implies_true, and_true]
    exact ⟨Json.ordered_some (.str _), Json.ordered_map fun s _ => .str s,
      Json.ordered_some props, Json.ordered_some style, Json.ordered_some (Json.ordered_list ih),
      Json.ordered_some hactions, Json.ordered_some guards.ordered_toJson⟩

/-! ## Trees -/

/-- **What is read of a tree is settled**, of one node and of a list of them. -/
theorem settled_of_treeOfJson {j : Json} {ns : List Node} (h : treeOfJson j = .ok ns) :
    ∀ n ∈ ns, n.Settled := by
  cases j with
  | arr items =>
    rw [treeOfJson] at h
    exact listOf_forall h fun y m _ hm => settled_of_ofJson hm
  | null | bool | num | str | obj =>
    obtain ⟨n, hn, rfl⟩ := Decoding.return_eq_ok.1 h
    exact List.forall_mem_singleton.2 (settled_of_ofJson hn)

/-- **Nodes that were read are read back as they are.** -/
theorem treeOfJson_listToJson {ns : List Node} (h : ∀ n ∈ ns, n.Settled) :
    treeOfJson (.arr (listToJson ns)) = .ok ns := by
  rw [treeOfJson, listToJson_eq_map, listOf_arr, List.mapM_map]
  exact (mapM_eq_ok fun n hn => (h n hn).ofJson_toJson).trans (by rw [List.map_id'])

/-- Settled nodes are written with all keys in order. -/
theorem ordered_listToJson {ns : List Node} (h : ∀ n ∈ ns, n.Settled) :
    (Json.arr (listToJson ns)).Ordered := by
  rw [listToJson_eq_map]
  exact Json.ordered_list fun n hn => (h n hn).ordered_toJson

end Node

end RemoteScreen
