import RemoteScreen.Condition.Eval

/-!
# Proofs/Condition/Cached — compiled patterns are kept, and nobody can tell

    nothing kept ──condition──▸ cache ──condition──▸ cache ──▸ …

All conditions share one cache, and a condition goes through it at each of its patterns, up to the
first part that has no answer.  A cache is **sound** when what it keeps is what the patterns compile
to, and is little enough (`Pattern.Cache.Sound`).  Each fetch keeps it sound, so it is sound at
every moment, between the parts of a condition too, and **every condition says what it says where
nothing is kept** (`testEach_transparent`), whatever patterns compile to.
-/

namespace RemoteScreen

/-! ## The cache -/

namespace Pattern.Cache

variable {patterns : Patterns} {cache : Cache}

/-- **What is kept is little enough, and each pattern is kept once, with what it compiles to.** -/
structure Sound (patterns : Patterns) (cache : Cache) : Prop where
  small : cache.entries.length ≤ capacity
  once : (cache.entries.map Prod.fst).Nodup
  own : ∀ pattern compiled, (pattern, compiled) ∈ cache.entries → patterns pattern = .ok compiled

namespace Sound

/-- An empty cache is sound. -/
theorem empty : Sound patterns empty := ⟨Nat.zero_le _, .nil, fun _ _ hm => by cases hm⟩

/-- A pattern that does not compile is not kept. -/
theorem lookup_eq_none (hs : Sound patterns cache) {pattern message : String}
    (hp : patterns pattern = .error message) : cache.entries.lookup pattern = none := by
  cases hl : cache.entries.lookup pattern with
  | none => rfl
  | some compiled =>
    obtain ⟨before, after, hentries, -⟩ := List.lookup_eq_some_iff.1 hl
    have hown := hs.own pattern compiled (by simp [hentries])
    cases hp.symm.trans hown

/-- A new pattern goes in where there is room. -/
theorem cons (hs : Sound patterns cache) (hroom : cache.entries.length < capacity)
    {pattern : String} (hnew : cache.entries.lookup pattern = none) {compiled : Compiled}
    (hp : patterns pattern = .ok compiled) :
    Sound patterns ⟨(pattern, compiled) :: cache.entries⟩ where
  small := hroom
  once := by
    refine List.nodup_cons.2 ⟨fun hmem => ?_, hs.once⟩
    obtain ⟨entry, hentry, rfl⟩ := List.mem_map.1 hmem
    exact bne_iff_ne.1 (List.lookup_eq_none_iff.1 hnew entry hentry) rfl
  own pattern' compiled' hmem := by
    rcases List.mem_cons.1 hmem with heq | hmem
    · cases heq
      exact hp
    · exact hs.own pattern' compiled' hmem

/-- **A fetch gives what the pattern compiles to, and leaves the cache sound.** -/
theorem fetch (hs : Sound patterns cache) (pattern : String) :
    (cache.fetch patterns pattern).1 = patterns pattern
      ∧ Sound patterns (cache.fetch patterns pattern).2 := by
  rw [Cache.fetch]
  cases hl : cache.entries.lookup pattern with
  | some compiled =>
    obtain ⟨before, after, hentries, -⟩ := List.lookup_eq_some_iff.1 hl
    exact ⟨(hs.own pattern compiled (by simp [hentries])).symm, hs⟩
  | none =>
    cases hp : patterns pattern with
    | error message => exact ⟨rfl, hs⟩
    | ok compiled =>
      refine ⟨rfl, ?_⟩
      dsimp only
      split
      · exact Sound.empty.cons (Nat.zero_lt_succ 255) rfl hp
      · next hroom => exact hs.cons (Nat.lt_of_not_le hroom) hl hp

end Sound

end Pattern.Cache

namespace Condition

variable {patterns : Patterns} {context : Json} {cache : Pattern.Cache}

/-! ## With patterns from a cache -/

/-- Where a condition takes a pattern, it is only asked for what this pattern compiles to. -/
theorem testValue_of_patternOf {op : Operator} {field value : Option Json} {pattern : String}
    (hp : patternOf op field value = some pattern) {compiled : Patterns}
    (hc : compiled pattern = patterns pattern) :
    testValue op field value compiled = testValue op field value patterns := by
  obtain ⟨s, rfl, rfl, rfl⟩ :
      ∃ s, op = .regex ∧ field = some (.str s) ∧ value = some (.str pattern) := by
    rw [patternOf.eq_def] at hp
    split at hp
    · next s _ => exact ⟨s, rfl, rfl, by rw [Option.some.inj hp]⟩
    · cases hp
  simp only [testValue, hc]

/-- What comes of a condition with a sound cache: what the condition says where nothing is kept, and
a sound cache. -/
structure Transparent (patterns : Patterns) (plain : Except EvalError Bool)
    (out : Except EvalError Bool × Pattern.Cache) : Prop where
  answer : out.1 = plain
  sound : out.2.Sound patterns

/-- Puts two answers together, the second one with the cache that the first one leaves; it is not
asked for where there is no first. -/
def both (op : Bool → Bool → Bool) (first : Except EvalError Bool × Pattern.Cache)
    (rest : Pattern.Cache → Except EvalError Bool × Pattern.Cache) :
    Except EvalError Bool × Pattern.Cache :=
  match first with
  | (.error e, cache) => (.error e, cache)
  | (.ok b, cache) => ((rest cache).1.map (op b ·), (rest cache).2)

theorem testAllCached_cons (c : Condition) (cs : List Condition) (cache : Pattern.Cache) :
    testAllCached patterns context (c :: cs) cache
      = both and (testCached patterns context c cache) (testAllCached patterns context cs) := rfl

theorem testAnyCached_cons (c : Condition) (cs : List Condition) (cache : Pattern.Cache) :
    testAnyCached patterns context (c :: cs) cache
      = both or (testCached patterns context c cache) (testAnyCached patterns context cs) := rfl

/-- Two parts, each transparent on any sound cache, are so one after the other. -/
theorem Transparent.both (op : Bool → Bool → Bool) {plain plain' : Except EvalError Bool}
    {first : Except EvalError Bool × Pattern.Cache}
    {rest : Pattern.Cache → Except EvalError Bool × Pattern.Cache}
    (hfirst : Transparent patterns plain first)
    (hrest : ∀ cache : Pattern.Cache, cache.Sound patterns →
      Transparent patterns plain' (rest cache)) :
    Transparent patterns (do return op (← plain) (← plain')) (both op first rest) := by
  obtain ⟨answer, cache⟩ := first
  obtain ⟨rfl, hsound⟩ := hfirst
  cases answer with
  | error e => exact ⟨rfl, hsound⟩
  | ok b =>
    obtain ⟨hanswer, hsound'⟩ := hrest cache hsound
    refine ⟨?_, hsound'⟩
    rw [Condition.both, hanswer]
    cases plain' <;> rfl

/-- An operator that takes a pattern takes it from the cache. -/
theorem transparent_testValue (hs : cache.Sound patterns) (op : Operator)
    (field value : Option Json) :
    Transparent patterns (testValue op field value patterns)
      (match patternOf op field value with
        | none => (testValue op field value patterns, cache)
        | some pattern => (testValue op field value fun _ => (cache.fetch patterns pattern).1,
            (cache.fetch patterns pattern).2)) := by
  cases hp : patternOf op field value with
  | none => exact ⟨rfl, hs⟩
  | some pattern =>
    obtain ⟨hcompiled, hsound⟩ := hs.fetch pattern
    exact ⟨testValue_of_patternOf hp hcompiled, hsound⟩

mutual

/-- **With a sound cache a condition says what it says with none, and leaves it sound.** -/
theorem testCached_transparent : (c : Condition) → (cache : Pattern.Cache) →
    cache.Sound patterns →
    Transparent patterns (c.test patterns context) (testCached patterns context c cache)
  | ⟨operator, field, value, []⟩, cache, hs => by
    have hvalue op := transparent_testValue hs op (fieldValue context field) value
    rw [test, testCached]
    cases Operator.ofName? operator with
    | none => exact ⟨rfl, hs⟩
    | some op =>
      cases op with
      | and | or | not => exact ⟨rfl, hs⟩
      | _ => exact hvalue _
  | ⟨operator, field, value, first :: rest⟩, cache, hs => by
    have hvalue op := transparent_testValue hs op (fieldValue context field) value
    have hfirst := testCached_transparent first cache hs
    have hall := testAllCached_transparent (first :: rest) cache hs
    have hany := testAnyCached_transparent (first :: rest) cache hs
    rw [test, testCached]
    cases Operator.ofName? operator with
    | none => exact ⟨rfl, hs⟩
    | some op =>
      cases op with
      | and => exact hall
      | or => exact hany
      | not => exact ⟨congrArg (Except.map (!·)) hfirst.answer, hfirst.sound⟩
      | _ => exact hvalue _

/-- A conjunction is tested as without the cache, and leaves it sound. -/
theorem testAllCached_transparent : (cs : List Condition) → (cache : Pattern.Cache) →
    cache.Sound patterns →
    Transparent patterns (testAll patterns context cs) (testAllCached patterns context cs cache)
  | [], _, hs => ⟨rfl, hs⟩
  | c :: cs, cache, hs => by
    rw [testAll, testAllCached_cons]
    exact .both and (testCached_transparent c cache hs) (testAllCached_transparent cs)

/-- So is a disjunction. -/
theorem testAnyCached_transparent : (cs : List Condition) → (cache : Pattern.Cache) →
    cache.Sound patterns →
    Transparent patterns (testAny patterns context cs) (testAnyCached patterns context cs cache)
  | [], _, hs => ⟨rfl, hs⟩
  | c :: cs, cache, hs => by
    rw [testAny, testAnyCached_cons]
    exact .both or (testCached_transparent c cache hs) (testAnyCached_transparent cs)

end

/-! ## At every moment -/

mutual

/-- **What the cache comes to while a condition is tested**: before it, while its parts are tested,
and after it. -/
inductive During (patterns : Patterns) (context : Json) :
    Condition → Pattern.Cache → Pattern.Cache → Prop where
  | before {c cache} : During patterns context c cache cache
  | conjunct {operator field value parts cache cache'} (ho : Operator.ofName? operator = some .and)
      (d : DuringParts patterns context parts cache cache') :
      During patterns context ⟨operator, field, value, parts⟩ cache cache'
  | choice {operator field value parts cache cache'} (ho : Operator.ofName? operator = some .or)
      (d : DuringParts patterns context parts cache cache') :
      During patterns context ⟨operator, field, value, parts⟩ cache cache'
  | negated {operator field value part rest cache cache'}
      (ho : Operator.ofName? operator = some .not) (d : During patterns context part cache cache') :
      During patterns context ⟨operator, field, value, part :: rest⟩ cache cache'
  | after {c cache} : During patterns context c cache (testCached patterns context c cache).2

/-- The same of the parts of a condition, which are tested up to the first that has no answer. -/
inductive DuringParts (patterns : Patterns) (context : Json) :
    List Condition → Pattern.Cache → Pattern.Cache → Prop where
  | first {c cs cache cache'} (d : During patterns context c cache cache') :
      DuringParts patterns context (c :: cs) cache cache'
  | later {c cs cache b cache' cache''}
      (hc : testCached patterns context c cache = (.ok b, cache'))
      (d : DuringParts patterns context cs cache' cache'') :
      DuringParts patterns context (c :: cs) cache cache''

end

/-- A test leaves the cache sound. -/
theorem sound_of_testCached {c : Condition} {out : Except EvalError Bool × Pattern.Cache}
    (hs : cache.Sound patterns) (hc : testCached patterns context c cache = out) :
    out.2.Sound patterns := hc ▸ (testCached_transparent c cache hs).sound

mutual

/-- The cache is sound at every moment. -/
theorem During.sound {c : Condition} {cache cache' : Pattern.Cache} :
    During patterns context c cache cache' → cache.Sound patterns → cache'.Sound patterns
  | .before, hs => hs
  | .conjunct _ d, hs | .choice _ d, hs => d.sound hs
  | .negated _ d, hs => d.sound hs
  | .after, hs => sound_of_testCached hs rfl

/-- In the middle of the parts of a condition the cache is sound. -/
theorem DuringParts.sound {cs : List Condition} {cache cache' : Pattern.Cache} :
    DuringParts patterns context cs cache cache' → cache.Sound patterns → cache'.Sound patterns
  | .first d, hs => d.sound hs
  | .later hc d, hs => d.sound (sound_of_testCached hs hc)

end

/-- Tests conditions one after the other, each in a context, with one cache for all. -/
def testEach (patterns : Patterns) : List (Json × Condition) →
    Pattern.Cache → List (Except EvalError Bool) × Pattern.Cache
  | [], cache => ([], cache)
  | (context, c) :: uses, cache =>
    let (answer, cache) := testCached patterns context c cache
    let (answers, cache) := testEach patterns uses cache
    (answer :: answers, cache)

/-- What the cache comes to while conditions are tested one after the other. -/
inductive DuringEach (patterns : Patterns) :
    List (Json × Condition) → Pattern.Cache → Pattern.Cache → Prop where
  | before {uses cache} : DuringEach patterns uses cache cache
  | first {context c uses cache cache'} (d : During patterns context c cache cache') :
      DuringEach patterns ((context, c) :: uses) cache cache'
  | later {context c uses cache cache'}
      (d : DuringEach patterns uses (testCached patterns context c cache).2 cache') :
      DuringEach patterns ((context, c) :: uses) cache cache'

/-- In the middle of a run of tests the cache is sound. -/
theorem DuringEach.sound {uses : List (Json × Condition)} {cache cache' : Pattern.Cache}
    (d : DuringEach patterns uses cache cache') (hs : cache.Sound patterns) :
    cache'.Sound patterns := by
  induction d with
  | before => exact hs
  | first d => exact d.sound hs
  | later _ ih => exact ih (sound_of_testCached hs rfl)

/-- The answers of a run of tests are those without a cache. -/
theorem testEach_fst (hs : cache.Sound patterns) (uses : List (Json × Condition)) :
    (testEach patterns uses cache).1 = uses.map fun u => u.2.test patterns u.1 := by
  induction uses generalizing cache with
  | nil => rfl
  | cons u uses ih =>
    obtain ⟨context, c⟩ := u
    have hfirst : Transparent patterns (c.test patterns context) _ :=
      testCached_transparent c cache hs
    rw [List.map_cons, ← hfirst.answer, ← ih hfirst.sound]
    rfl

/-- **Nobody can tell that patterns are kept.**  Whatever patterns compile to, and whatever
conditions are tested in whatever contexts, beginning with nothing kept: each of them says what it
says where nothing is ever kept.  At every moment, while a condition is tested too, the cache keeps
no more patterns than it may, each of them once and with what it compiles to, and none that does not
compile. -/
theorem testEach_transparent (patterns : Patterns) (uses : List (Json × Condition)) :
    (testEach patterns uses .empty).1 = uses.map (fun u => u.2.test patterns u.1)
      ∧ ∀ cache, DuringEach patterns uses .empty cache → cache.Sound patterns
          ∧ ∀ pattern message, patterns pattern = .error message →
              cache.entries.lookup pattern = none := by
  refine ⟨testEach_fst .empty uses, fun cache d => ?_⟩
  have hsound := d.sound .empty
  exact ⟨hsound, fun _ _ => hsound.lookup_eq_none⟩

end Condition

end RemoteScreen
