import Mathlib.Data.List.DropRight
import RemoteScreen.Metrics
import RemoteScreen.Proofs.Number.Rounding

/-!
# Proofs/Metrics — how many durations the window holds

The window grows to its cap, falls back to what it keeps and grows again: of `n` durations it holds
the latest `held C K n`, which has a period once the cap is passed.

* `held_succ` — one more is held with every duration, until the cap is passed;
* `uses_holds` — **whatever is done to metrics, their window holds exactly the latest durations
  since the last reset, in order, `held` of them**, and their average divides by a number other than
  zero.
-/

namespace RemoteScreen

/-! ## A count as a number -/

namespace Binary64

theorem roundDiv_le {q n d : Nat} (h : n < d * q) : roundDiv n d ≤ q := by
  have hq : n / d < q := Nat.div_lt_of_lt_mul h
  rw [roundDiv]
  split
  · omega
  · split <;> omega

/-- **A count of the machine has a number other than zero.** -/
theorem exists_ofInt? {n : Nat} (hn : 0 < n) (hlt : n < 2 ^ 64) :
    ∃ x, ofInt? n = some x ∧ x.ratio.1 ≠ 0 := by
  have hs := scaleOf_isScale hn Nat.one_pos
  have hm := magnitudeOfRatio_eq hn Nat.one_pos hs
  generalize scaleOf n 1 = s at hs hm
  have hround : roundDiv (n * grains) (1 * 2 ^ s) ≤ 2 ^ 53 := by
    refine roundDiv_le ?_
    rw [Nat.one_mul, ← Nat.pow_add, Nat.add_comm s]
    simpa using hs.lt
  have hgrains : n * grains < 2 ^ (64 + 1074) :=
    calc n * grains < 2 ^ 64 * grains := Nat.mul_lt_mul_of_pos_right hlt grains_pos
      _ = 2 ^ (64 + 1074) := by rw [← Nat.one_mul (2 ^ 64), mul_grains, Nat.one_mul]
  have hupper : s < 1086 := by
    rcases hs.least with rfl | hle
    · omega
    · rw [Nat.one_mul] at hle
      have := (Nat.pow_lt_pow_iff_right (by decide : 1 < 2)).1 (Nat.lt_of_le_of_lt hle hgrains)
      omega
  have hlower : 0 < s := by
    refine Nat.pos_of_ne_zero fun h0 => ?_
    subst h0
    have hlt := Nat.lt_of_le_of_lt (Nat.le_mul_of_pos_left grains hn) hs.lt
    rw [grains_eq, Nat.one_mul] at hlt
    have := (Nat.pow_lt_pow_iff_right (by decide : 1 < 2)).1 hlt
    omega
  have hfinite : magnitudeOfRatio n 1 < 0x7FF0000000000000 := by omega
  refine ⟨⟨false, magnitudeOfRatio n 1, hfinite⟩, ?_, fun h0 => ?_⟩
  · simp [ofInt?, ofRatio?, hfinite]
  · have hzero := magnitudeOfRatio_ratio ⟨false, magnitudeOfRatio n 1, hfinite⟩
    rw [h0, magnitudeOfRatio_zero] at hzero
    dsimp only at hzero
    omega

end Binary64

namespace Metrics

/-! ## How many are held -/

/-- How many durations of `n` are held under the cap `C`, where `K` stay once it is passed. -/
def held (C K n : Nat) : Nat := if n ≤ C then n else K + (n - C - 1) % (C - K + 1)

section held

variable {C K : Nat}

theorem held_of_le {n : Nat} (h : n ≤ C) : held C K n = n := if_pos h

/-- Past the cap the window shrinks to what is kept and fills up again, round and round. -/
theorem held_add (C K k : Nat) : held C K (C + 1 + k) = K + k % (C - K + 1) := by
  rw [held, if_neg (by omega), show C + 1 + k - C - 1 = k by omega]

theorem succ_mod_add_one (k p : Nat) :
    (k + 1) % (p + 1) = if k % (p + 1) = p then 0 else k % (p + 1) + 1 := by
  have hlt := Nat.mod_lt k (Nat.add_one_pos p)
  rw [← Nat.mod_add_mod]
  split
  · next h => rw [h, Nat.mod_self]
  · next h => exact Nat.mod_eq_of_lt (by omega)

/-- **One more is held with every duration; the one that passes the cap leaves `K`.** -/
theorem held_succ (hK : K ≤ C) (n : Nat) :
    held C K (n + 1) = if held C K n = C then K else held C K n + 1 := by
  rcases Nat.lt_or_ge C n with hn | hn
  · obtain ⟨k, rfl⟩ : ∃ k, n = C + 1 + k := Nat.exists_eq_add_of_le hn
    rw [Nat.add_assoc, held_add, held_add, succ_mod_add_one]
    split <;> split <;> omega
  · rw [held_of_le hn]
    split
    · next h => simpa [h] using held_add C K 0
    · exact held_of_le (by omega)

/-- Never more is held than the cap allows. -/
theorem held_le_cap (hK : K ≤ C) (n : Nat) : held C K n ≤ C := by
  rw [held]
  split
  · assumption
  · have := Nat.mod_lt (n - C - 1) (Nat.add_one_pos (C - K))
    omega

/-- Nor more than there are. -/
theorem held_le (hK : K ≤ C) (n : Nat) : held C K n ≤ n := by
  rcases Nat.lt_or_ge C n with hn | hn
  · exact Nat.le_trans (held_le_cap hK n) (Nat.le_of_lt hn)
  · exact Nat.le_of_eq (held_of_le hn)

/-- Of any samples at least one is held. -/
theorem one_le_held (hK : 1 ≤ K) {n : Nat} (hn : 1 ≤ n) : 1 ≤ held C K n := by
  rw [held]
  split <;> omega

end held

/-! ## The latest of a list -/

section rtake

variable {α : Type} (l : List α)

theorem length_rtake {k : Nat} (h : k ≤ l.length) : (l.rtake k).length = k := by
  rw [List.rtake, List.length_drop]
  omega

theorem rtake_rtake {j k : Nat} (h : j ≤ k) : (l.rtake k).rtake j = l.rtake j := by
  rw [List.rtake_eq_reverse_take_reverse, List.rtake_eq_reverse_take_reverse,
    List.rtake_eq_reverse_take_reverse, List.reverse_reverse, List.take_take, Nat.min_eq_left h]

theorem getLast?_rtake {k : Nat} (h : 1 ≤ k) : (l.rtake k).getLast? = l.getLast? := by
  rw [List.rtake_eq_reverse_take_reverse, List.getLast?_reverse, List.head?_take,
    if_neg (by omega), List.head?_reverse]

end rtake

/-! ## What is done to metrics -/

/-- What is done to metrics. -/
inductive Use where
  | recorded (duration : Nat)
  | executed
  | succeeded
  | failed
  | retried
  | hit
  | reset
  deriving DecidableEq

/-- Metrics after a use. -/
def use (m : Metrics) : Use → Metrics
  | .recorded duration => m.record duration
  | .executed => m.countExecuted
  | .succeeded => m.countSucceeded
  | .failed => m.countFailed
  | .retried => m.countRetried
  | .hit => m.countCacheHit
  | .reset => m.reset

/-- Metrics after uses. -/
def uses (m : Metrics) (us : List Use) : Metrics := us.foldl use m

/-- The durations since the last reset, after one more use. -/
def Use.recent (ds : List Nat) : Use → List Nat
  | .recorded duration => ds ++ [duration]
  | .reset => []
  | _ => ds

/-- The durations recorded since the last reset, the oldest first. -/
def recent (us : List Use) : List Nat := us.foldl Use.recent []

/-- The sum of the durations held, in milliseconds. -/
def total (m : Metrics) : Binary64 :=
  m.durations.foldl (fun t d => (t.add? (milliseconds d)).getD t) (.zero false)

/-! ## The window -/

/-- The window holds the latest of some durations. -/
structure Windowed (C K : Nat) (ds : List Nat) (m : Metrics) : Prop where
  cap_eq : m.cap = C
  keep_eq : m.keep = K
  durations_eq : m.durations = ds.rtake (held C K ds.length)

section Windowed

variable {C K : Nat} {ds : List Nat} {m : Metrics}

/-- The window is as long as the closed form says. -/
theorem Windowed.length (h : Windowed C K ds m) (hK : K ≤ C) :
    m.durations.length = held C K ds.length := by
  rw [h.durations_eq, length_rtake ds (held_le hK ds.length)]

/-- **One more duration.**  The window after it is again the latest, whether it is cut or not. -/
theorem Windowed.record (h : Windowed C K ds m) (hK : K ≤ C) (d : Nat) :
    Windowed C K (ds ++ [d]) (m.record d) := by
  refine ⟨h.cap_eq, h.keep_eq, ?_⟩
  have hall : m.durations ++ [d] = (ds ++ [d]).rtake (held C K ds.length + 1) := by
    rw [h.durations_eq, List.rtake_concat_succ]
  have hlen : (m.durations ++ [d]).length = held C K ds.length + 1 := by
    rw [List.length_append, h.length hK, List.length_singleton]
  have hle := held_le_cap hK ds.length
  rw [List.length_append, List.length_singleton, held_succ hK, Metrics.record]
  dsimp only
  rw [hlen, h.cap_eq, h.keep_eq]
  split
  · next hcut =>
    rw [if_pos (by omega), ← hlen]
    exact (congrArg (List.rtake · K) hall).trans (rtake_rtake _ (by omega))
  · next hcut => rw [if_neg (by omega), hall]

/-- **A use of the metrics keeps them windowed.** -/
theorem Windowed.use (h : Windowed C K ds m) (hK : K ≤ C) (u : Use) :
    Windowed C K (u.recent ds) (m.use u) := by
  cases u with
  | recorded d => exact h.record hK d
  | reset => exact ⟨h.cap_eq, h.keep_eq, rfl⟩
  | executed | succeeded | failed | retried | hit => exact ⟨h.cap_eq, h.keep_eq, h.durations_eq⟩

/-- So do many. -/
theorem Windowed.uses (h : Windowed C K ds m) (hK : K ≤ C) (us : List Use) :
    Windowed C K (us.foldl Use.recent ds) (m.uses us) := by
  induction us generalizing ds m with
  | nil => exact h
  | cons u us ih => exact ih (h.use hK u)

end Windowed

/-- New metrics hold nothing, with cap and keep at least one. -/
theorem windowed_new (cap keep : Nat) :
    Windowed (max cap 1) (max (min keep cap) 1) [] (new cap keep) := ⟨rfl, rfl, rfl⟩

/-! ## The average -/

/-- The average of no samples is zero. -/
theorem average_of_nil {m : Metrics} (h : m.durations = []) : m.average = .zero false := by
  simp [average, h]

/-- Otherwise it is their total over their number. -/
theorem average_of_ne_nil {m : Metrics} (h : m.durations ≠ []) :
    m.average = (m.total.div? ((Binary64.ofInt? m.durations.length).getD (.zero false))).getD
      (.zero false) := by
  rw [average, if_neg (by simpa using h)]
  rfl

/-! ## All that is to be said of the window -/

/-- The window of metrics, where `ds` are the durations since the last reset. -/
structure Holds (C K : Nat) (ds : List Nat) (m : Metrics) : Prop where
  /-- Where the window is cut, no more is kept than there is. -/
  cut : ∀ d, m.cap < (m.durations ++ [d]).length → m.keep ≤ (m.durations ++ [d]).length
  /-- It holds the latest durations, in order. -/
  latest : m.durations = ds.rtake (held C K ds.length)
  /-- It holds so many of them. -/
  length : m.durations.length = held C K ds.length
  pos : ds ≠ [] → 1 ≤ m.durations.length
  le : m.durations.length ≤ C
  newest : m.durations.getLast? = ds.getLast?
  average_nil : ds = [] → m.average = .zero false
  /-- The average divides by the number of the count, for every cap that the machine can have. -/
  average : ds ≠ [] → C < 2 ^ 64 → ∃ count, Binary64.ofInt? m.durations.length = some count ∧
    count.ratio.1 ≠ 0 ∧ m.average = (m.total.div? count).getD (.zero false)

/-- **Windowed metrics hold what is said of them.** -/
theorem Windowed.holds {C K : Nat} {ds : List Nat} {m : Metrics} (h : Windowed C K ds m)
    (hpos : 1 ≤ K) (hK : K ≤ C) : Holds C K ds m := by
  have hlen := h.length hK
  have hle : m.durations.length ≤ C := hlen ▸ held_le_cap hK ds.length
  have hone (hds : ds ≠ []) : 1 ≤ m.durations.length :=
    hlen ▸ one_le_held hpos (List.length_pos_iff.2 hds)
  have hnewest : m.durations.getLast? = ds.getLast? := by
    rcases eq_or_ne ds [] with rfl | hds
    · rw [h.durations_eq, List.rtake_nil]
    · rw [h.durations_eq, getLast?_rtake ds (hlen ▸ hone hds)]
  refine ⟨fun d hd => ?_, h.durations_eq, hlen, hone, hle, hnewest, fun hds => ?_, fun hds hC => ?_⟩
  · rw [h.cap_eq] at hd
    rw [h.keep_eq]
    omega
  · exact average_of_nil (by rw [h.durations_eq, hds, List.rtake_nil])
  · obtain ⟨count, hcount, hne⟩ := Binary64.exists_ofInt? (hone hds) (by omega)
    refine ⟨count, hcount, hne, ?_⟩
    rw [average_of_ne_nil (List.length_pos_iff.1 (hone hds)), hcount, Option.getD_some]

/-- **Whatever is done to metrics, their window holds exactly the latest durations since the last
reset**, for every cap and everything to keep, zero included. -/
theorem uses_holds (cap keep : Nat) (us : List Use) :
    Holds (max cap 1) (max (min keep cap) 1) (recent us) ((new cap keep).uses us) :=
  ((windowed_new cap keep).uses (by omega) us).holds (by omega) (by omega)

/-- With a cap of 5 of which 2 stay, the window falls back with the sixth duration and the tenth. -/
example : ((new 5 2).uses ((List.range 9).map .recorded)).durations = [4, 5, 6, 7, 8] := by decide
example : ((new 5 2).uses ((List.range 10).map .recorded)).durations = [8, 9] := by decide

end Metrics

end RemoteScreen
