import FunctionOperator.Backoff
import FunctionOperator.Proofs.SortedMap
import Mathlib.Algebra.Group.Nat.Defs
import Mathlib.Data.List.DropRight
import Mathlib.Order.Monotone.Basic

/-!
# Delays that double

How long a failing key has to wait. Read `Backoff.doubled` first, the delay in exact arithmetic: the
base, doubled by each failure, up to the cap. `Backoff.delay_for_nanos` says where the delay is this
one. The power of two is a number of 32 bits, and a greater one calls for the cap, whether the
doubled delay has reached it or not; `Backoff.delay_for_doubles` says for which backoffs this makes
no difference, and `Backoff.doubling_cut_short` shows two for which it does.

`RateLimiter.Accounted` is the account of everything that is asked of a limiter. It is kept for each
key apart, which is why all of it follows from what one call leaves of the counts
(`RateLimiter.Knows.answer`).
-/

namespace FunctionOperator

/-! ## One delay -/

/-- A multiple that can be represented is exact. -/
theorem Duration.nanos_of_times {duration multiple : Duration} {factor : Nat}
    (h : duration.times? factor = some multiple) : multiple.nanos = duration.nanos * factor := by
  unfold times? ofNanos? at h
  split at h
  · cases h
    rfl
  · cases h

/-- Only a multiple that exceeds every duration is refused. -/
theorem Duration.limit_lt_of_times {duration : Duration} {factor : Nat}
    (h : duration.times? factor = none) : limit < duration.nanos * factor := by
  unfold times? ofNanos? at h
  split at h
  · cases h
  · next hlimit => exact Nat.not_le.1 hlimit

namespace Backoff

/-- The delay after some failures in exact arithmetic: the doubled base, up to the cap. -/
def doubled (backoff : Backoff) (failures : Nat) : Nat :=
  min (backoff.base.nanos * 2 ^ failures) backoff.max.nanos

/-- From 32 failures on the delay is the cap. -/
theorem delay_for_of_le (backoff : Backoff) {failures : Nat} (h : 32 ≤ failures) :
    backoff.delayFor failures = backoff.max := by
  rw [delayFor, factor?, if_neg h.not_gt, Option.bind_none]

/-- The delay is exact as long as the power of two has 32 bits, and then it is the cap. -/
theorem delay_for_nanos (backoff : Backoff) (failures : Nat) :
    (backoff.delayFor failures).nanos =
      if failures < 32 then backoff.doubled failures else backoff.max.nanos := by
  by_cases hfew : failures < 32
  · rw [if_pos hfew, delayFor, factor?, if_pos hfew, Option.bind_some, doubled]
    split
    · next delay hdelay =>
      rw [Duration.nanos_shorter, Duration.nanos_of_times hdelay, Nat.pow_eq]
    -- a product that exceeds every duration exceeds the cap
    · next hnone =>
      have hlimit : Duration.limit < backoff.base.nanos * 2 ^ failures :=
        Duration.limit_lt_of_times hnone
      exact (Nat.min_eq_right (backoff.max.nanos_le.trans hlimit.le)).symm
  · rw [if_neg hfew, backoff.delay_for_of_le (Nat.not_lt.1 hfew)]

/-- Another failure doubles the delay, up to the cap. -/
theorem doubled_succ (backoff : Backoff) (failures : Nat) :
    backoff.doubled (failures + 1) = min (2 * backoff.doubled failures) backoff.max.nanos := by
  simp only [doubled, Nat.pow_succ, ← Nat.mul_assoc]
  omega

/-- In exact arithmetic the delay never decreases. -/
theorem doubled_mono (backoff : Backoff) : Monotone backoff.doubled := by
  refine monotone_nat_of_le_succ fun failures => ?_
  have hcap : backoff.doubled failures ≤ backoff.max.nanos := Nat.min_le_right _ _
  rw [doubled_succ]
  omega

/-- No delay exceeds the cap. -/
theorem delay_for_le (backoff : Backoff) (failures : Nat) :
    (backoff.delayFor failures).nanos ≤ backoff.max.nanos := by
  rw [delay_for_nanos]
  split
  · exact Nat.min_le_right _ _
  · exact Nat.le_refl _

/-- More failures never shorten the delay. -/
theorem delay_for_mono (backoff : Backoff) :
    Monotone fun failures => (backoff.delayFor failures).nanos := by
  intro fewer more hle
  show (backoff.delayFor fewer).nanos ≤ (backoff.delayFor more).nanos
  by_cases hmore : more < 32
  · rw [delay_for_nanos, delay_for_nanos, if_pos hmore, if_pos (hle.trans_lt hmore)]
    exact backoff.doubled_mono hle
  · rw [backoff.delay_for_nanos more, if_neg hmore]
    exact backoff.delay_for_le fewer

/-- A delay is exact if the power of two has 32 bits, or the doubled base has reached the cap. -/
theorem delay_for_exact_iff (backoff : Backoff) (failures : Nat) :
    (backoff.delayFor failures).nanos = backoff.doubled failures ↔
      failures < 32 ∨ backoff.max.nanos ≤ backoff.base.nanos * 2 ^ failures := by
  rw [delay_for_nanos]
  split
  · next hfew => simp [hfew]
  · next hmany =>
    rw [or_iff_right hmany, doubled]
    omega

/-- Where doubling has reached the cap by the 32nd failure, every delay is exact. -/
theorem delay_for_exact (backoff : Backoff)
    (hreached : backoff.max.nanos ≤ backoff.base.nanos * 2 ^ 32) (failures : Nat) :
    (backoff.delayFor failures).nanos = backoff.doubled failures := by
  refine (backoff.delay_for_exact_iff failures).2 ?_
  by_cases hfew : failures < 32
  · exact .inl hfew
  · have hpow : 2 ^ 32 ≤ 2 ^ failures := Nat.pow_le_pow_right (by decide) (Nat.not_lt.1 hfew)
    exact .inr (hreached.trans (Nat.mul_le_mul_left _ hpow))

/-- The delay doubles until the cap for up to 31 failures, and from then on it is the cap. So it is
the doubled base up to the cap for every count of 32 bits exactly if doubling has reached the cap
by the 32nd failure. -/
theorem delay_for_doubles (backoff : Backoff) :
    (∀ failures < 32, (backoff.delayFor failures).nanos = backoff.doubled failures) ∧
    (∀ failures, 32 ≤ failures → backoff.delayFor failures = backoff.max) ∧
    (∀ failures, (backoff.delayFor failures).nanos = backoff.doubled failures ↔
      failures < 32 ∨ backoff.max.nanos ≤ backoff.base.nanos * 2 ^ failures) ∧
    ((∀ failures ≤ RateLimiter.countLimit,
        (backoff.delayFor failures).nanos = backoff.doubled failures) ↔
      backoff.max.nanos ≤ backoff.base.nanos * 2 ^ 32) := by
  refine ⟨fun failures hfew => (backoff.delay_for_exact_iff failures).2 (.inl hfew),
    fun failures => backoff.delay_for_of_le, backoff.delay_for_exact_iff, fun hexact => ?_,
    fun hreached failures _ => backoff.delay_for_exact hreached failures⟩
  have hfirst := hexact 32 (by decide)
  exact ((backoff.delay_for_exact_iff 32).1 hfirst).resolve_left (Nat.lt_irrefl 32)

/-- Five milliseconds double until a thousand seconds for every count. -/
theorem standard_exact (failures : Nat) :
    (standard.delayFor failures).nanos = min (5_000_000 * 2 ^ failures) 1_000_000_000_000 :=
  standard.delay_for_exact (by decide) failures

/-- A nanosecond, up to a thousand seconds. -/
def brief : Backoff := { standard with base := ⟨1, by decide⟩ }

/-- No delay, up to a thousand seconds. -/
def immediate : Backoff := { standard with base := .zero }

/-- After 31 failures the brief delay is two seconds, and after 32 it is not four seconds but a
thousand; and no delay at all becomes a thousand seconds. -/
theorem doubling_cut_short :
    (brief.delayFor 31).nanos = brief.doubled 31 ∧ brief.doubled 31 = 2_147_483_648 ∧
    brief.doubled 32 = 4_294_967_296 ∧ (brief.delayFor 32).nanos = 1_000_000_000_000 ∧
    immediate.doubled 32 = 0 ∧ (immediate.delayFor 32).nanos = 1_000_000_000_000 := by
  decide

end Backoff

/-! ## The delays of every key -/

/-- What is asked of a limiter. -/
inductive LimiterCall where
  /-- A key has failed; how long does it have to wait? -/
  | record (key : String)
  /-- The failures of a key are forgotten. -/
  | forget (key : String)
  /-- How often has a key failed? -/
  | requeues (key : String)
deriving DecidableEq

/-- What a limiter answers. -/
inductive LimiterAnswer where
  /-- The delay of a key that has failed. -/
  | delay (delay : Duration)
  /-- The failures are forgotten. -/
  | forgotten
  /-- The number of failures. -/
  | count (failures : Nat)
deriving DecidableEq

namespace LimiterCall

/-- The key that a call is about. -/
def key : LimiterCall → String
  | record key => key
  | forget key => key
  | requeues key => key

/-- How often a key has failed since it was last forgotten, or at all. -/
def streak (calls : List LimiterCall) (key : String) : Nat :=
  (calls.rtakeWhile (· ≠ forget key)).count (record key)

/-- The answer to a call by the calls before it. -/
def due (backoff : Backoff) (before : List LimiterCall) : LimiterCall → LimiterAnswer
  | record key => .delay (backoff.delayFor (min (streak before key) RateLimiter.countLimit))
  | forget _ => .forgotten
  | requeues key => .count (min (streak before key) RateLimiter.countLimit)

/-- Calls that do not forget a key add their failures. -/
theorem streak_append {seen more : List LimiterCall} {key : String} (h : forget key ∉ more) :
    streak (seen ++ more) key = streak seen key + more.count (record key) := by
  have hkept : ∀ call ∈ more.reverse, decide (call ≠ forget key) = true := fun call hcall =>
    decide_eq_true fun heq => h (heq ▸ List.mem_reverse.1 hcall)
  rw [streak, List.rtakeWhile, List.reverse_append, List.takeWhile_append_of_pos hkept,
    List.reverse_append, List.reverse_reverse, List.count_append]
  rfl

/-- A key that was just forgotten has not failed since. -/
theorem streak_forget (seen : List LimiterCall) (key : String) :
    streak (seen ++ [forget key]) key = 0 := by
  rw [streak, List.rtakeWhile_concat_neg _ _ _ (by simp), List.count_nil]

end LimiterCall

namespace RateLimiter

/-- Answers a call. -/
def answer (limiter : RateLimiter) : LimiterCall → LimiterAnswer × RateLimiter
  | .record key => (.delay (limiter.record key).1, (limiter.record key).2)
  | .forget key => (.forgotten, limiter.forget key)
  | .requeues key => (.count (limiter.requeues key), limiter)

/-- Some calls with their answers. -/
def history (limiter : RateLimiter) : List LimiterCall → List (LimiterCall × LimiterAnswer)
  | [] => []
  | call :: calls => (call, (limiter.answer call).1) :: (limiter.answer call).2.history calls

open LimiterCall (streak streak_append streak_forget due)

/-- What the history of a new limiter has to be. -/
structure Accounted (backoff : Backoff) (calls : List LimiterCall)
    (history : List (LimiterCall × LimiterAnswer)) : Prop where
  /-- Every call is answered. -/
  answered : history.map (·.1) = calls
  /-- The answer is the one that the calls before it ask for: the delay for the failures of the key
  since it was last forgotten, or their number, as far as 32 bits can count. -/
  due : ∀ before call answer after, history = before ++ (call, answer) :: after →
    answer = due backoff (before.map (·.1)) call
  /-- The calls on a key are answered as if there were no others. -/
  apart : ∀ key, history.filter (·.1.key = key) =
    (RateLimiter.new backoff).history (calls.filter (·.key = key))
  /-- As long as a key is not forgotten, its delay never decreases. -/
  grows : ∀ before key first middle second after, history = before ++
      (.record key, .delay first) :: middle ++ (.record key, .delay second) :: after →
    .forget key ∉ middle.map (·.1) → first.nanos ≤ second.nanos
  /-- No delay exceeds the cap. -/
  capped : ∀ key delay, (.record key, .delay delay) ∈ history → delay.nanos ≤ backoff.max.nanos
  /-- No count exceeds what 32 bits can count. -/
  counted : ∀ key number, (.requeues key, .count number) ∈ history → number ≤ countLimit
  /-- Nothing overflows: a delay is what exact arithmetic makes of the exact number of failures, and
  the cap from 32 failures on. -/
  exact : ∀ before key delay after, history = before ++ (.record key, .delay delay) :: after →
    delay.nanos = if streak (before.map (·.1)) key < 32
      then backoff.doubled (streak (before.map (·.1)) key) else backoff.max.nanos

variable {backoff : Backoff} {limiter : RateLimiter} {seen : List LimiterCall}

/-- A failure counts for its key alone. -/
theorem requeues_record (limiter : RateLimiter) (key other : String) :
    (limiter.record key).2.requeues other =
      if other = key then min (limiter.requeues key + 1) countLimit
      else limiter.requeues other := by
  simp only [record, requeues, SortedMap.get?_insert]
  split <;> rfl

/-- The failures of a key that is forgotten count no more. -/
theorem requeues_forget (limiter : RateLimiter) (key other : String) :
    (limiter.forget key).requeues other =
      if other = key then 0 else limiter.requeues other := by
  simp only [forget, requeues, SortedMap.get?_erase]
  split <;> rfl

/-- A limiter knows what was asked of it. -/
structure Knows (limiter : RateLimiter) (backoff : Backoff) (seen : List LimiterCall) : Prop where
  /-- It keeps its backoff. -/
  backoff_eq : limiter.backoff = backoff
  /-- It knows how often each key has failed, as far as it can count. -/
  requeues : ∀ key, limiter.requeues key = min (streak seen key) countLimit

namespace Knows

/-- A new limiter knows that nothing was asked of it. -/
theorem new (backoff : Backoff) : (RateLimiter.new backoff).Knows backoff [] :=
  ⟨rfl, fun _ => rfl⟩

/-- A call is answered by what was asked before, and the limiter knows of it from then on. -/
theorem answer (h : limiter.Knows backoff seen) (call : LimiterCall) :
    (limiter.answer call).1 = due backoff seen call ∧
      (limiter.answer call).2.Knows backoff (seen ++ [call]) := by
  cases call with
  | record key =>
    refine ⟨?_, h.backoff_eq, fun other => ?_⟩
    · show LimiterAnswer.delay (limiter.backoff.delayFor (limiter.requeues key)) = _
      rw [h.backoff_eq, h.requeues]
      rfl
    · show (limiter.record key).2.requeues other = _
      rw [requeues_record, streak_append (by simp), h.requeues, h.requeues]
      by_cases hkey : other = key
      · rw [if_pos hkey, hkey, List.count_singleton_self]
        omega
      · rw [if_neg hkey, List.count_singleton, if_neg (by simpa using Ne.symm hkey), Nat.add_zero]
  | forget key =>
    refine ⟨rfl, h.backoff_eq, fun other => ?_⟩
    show (limiter.forget key).requeues other = _
    rw [requeues_forget]
    by_cases hkey : other = key
    · rw [if_pos hkey, hkey, streak_forget, Nat.zero_min]
    · rw [if_neg hkey, streak_append (by simpa using hkey), h.requeues]
      rfl
  | requeues key =>
    refine ⟨congrArg LimiterAnswer.count (h.requeues key), h.backoff_eq, fun other => ?_⟩
    rw [streak_append (by simp)]
    exact h.requeues other

/-- Every call of a history is answered by all that was asked before. -/
theorem history_due (h : limiter.Knows backoff seen) {calls : List LimiterCall}
    {before after : List (LimiterCall × LimiterAnswer)} {call : LimiterCall}
    {given : LimiterAnswer} (hhistory : limiter.history calls = before ++ (call, given) :: after) :
    given = due backoff (seen ++ before.map (·.1)) call := by
  induction calls generalizing limiter seen before with
  | nil => simp [history] at hhistory
  | cons first calls ih =>
    obtain ⟨hgiven, hnext⟩ := h.answer first
    cases before with
    | nil =>
      obtain ⟨⟨rfl, rfl⟩, -⟩ : (first = call ∧ _ = given) ∧ _ := by simpa [history] using hhistory
      rw [hgiven, List.map_nil, List.append_nil]
    | cons entry before =>
      obtain ⟨rfl, hrest⟩ : _ = entry ∧ _ := by simpa [history] using hhistory
      rw [ih hnext hrest, List.append_assoc]
      rfl

end Knows

/-- Every call is answered. -/
theorem history_calls (limiter : RateLimiter) (calls : List LimiterCall) :
    (limiter.history calls).map (·.1) = calls := by
  induction calls generalizing limiter with
  | nil => rfl
  | cons call calls ih => rw [history, List.map_cons, ih]

/-- Limiters that agree on a key answer the calls on this key alike, and agree on it afterwards. -/
theorem answer_congr {other : RateLimiter} {call : LimiterCall}
    (hbackoff : limiter.backoff = other.backoff)
    (hkey : limiter.requeues call.key = other.requeues call.key) :
    (limiter.answer call).1 = (other.answer call).1 ∧
      (limiter.answer call).2.backoff = (other.answer call).2.backoff ∧
      (limiter.answer call).2.requeues call.key = (other.answer call).2.requeues call.key := by
  cases call with
  | record key =>
    have hkey : limiter.requeues key = other.requeues key := hkey
    refine ⟨?_, hbackoff, ?_⟩
    · show LimiterAnswer.delay (limiter.backoff.delayFor (limiter.requeues key)) = _
      rw [hbackoff, hkey]
      rfl
    · show (limiter.record key).2.requeues key = (other.record key).2.requeues key
      rw [requeues_record, requeues_record, if_pos rfl, if_pos rfl, hkey]
  | forget key =>
    refine ⟨rfl, hbackoff, ?_⟩
    show (limiter.forget key).requeues key = (other.forget key).requeues key
    rw [requeues_forget, requeues_forget, if_pos rfl, if_pos rfl]
  | requeues key => exact ⟨congrArg LimiterAnswer.count hkey, hbackoff, hkey⟩

/-- A call on another key leaves the backoff and the failures of a key. -/
theorem answer_frame {call : LimiterCall} {key : String} (h : call.key ≠ key) :
    (limiter.answer call).2.backoff = limiter.backoff ∧
      (limiter.answer call).2.requeues key = limiter.requeues key := by
  cases call with
  | record other => exact ⟨rfl, (requeues_record limiter other key).trans (if_neg (Ne.symm h))⟩
  | forget other => exact ⟨rfl, (requeues_forget limiter other key).trans (if_neg (Ne.symm h))⟩
  | requeues other => exact ⟨rfl, rfl⟩

/-- The calls on a key are answered as if there were no others. -/
theorem history_filter {other : RateLimiter} {key : String}
    (hbackoff : limiter.backoff = other.backoff) (hkey : limiter.requeues key = other.requeues key)
    (calls : List LimiterCall) :
    (limiter.history calls).filter (·.1.key = key) =
      other.history (calls.filter (·.key = key)) := by
  induction calls generalizing limiter other with
  | nil => rfl
  | cons call calls ih =>
    by_cases hown : call.key = key
    · subst hown
      obtain ⟨hanswer, hbackoff, hkey⟩ := answer_congr hbackoff hkey
      rw [history, List.filter_cons_of_pos (by simp), List.filter_cons_of_pos (by simp), history,
        ih hbackoff hkey, hanswer]
    · obtain ⟨hsame, hcount⟩ := limiter.answer_frame hown
      rw [history, List.filter_cons_of_neg (by simpa using hown),
        List.filter_cons_of_neg (by simpa using hown)]
      exact ih (hsame.trans hbackoff) (hcount.trans hkey)

/-- A delay in a history is that for the failures of the key since it was last forgotten. -/
theorem history_delay {calls : List LimiterCall} {before after : List (LimiterCall × LimiterAnswer)}
    {key : String} {delay : Duration} (h : (RateLimiter.new backoff).history calls =
      before ++ (.record key, .delay delay) :: after) :
    delay = backoff.delayFor (min (streak (before.map (·.1)) key) countLimit) :=
  LimiterAnswer.delay.inj ((Knows.new backoff).history_due h)

/-- A count that is cut off has passed 32 long ago, and calls for the cap all the same. -/
theorem delay_for_counted (backoff : Backoff) (failures : Nat) :
    (backoff.delayFor (min failures countLimit)).nanos =
      if failures < 32 then backoff.doubled failures else backoff.max.nanos := by
  rw [backoff.delay_for_nanos]
  by_cases hfew : failures < 32
  · have hcounted : min failures countLimit = failures :=
      Nat.min_eq_left (hfew.le.trans (by decide))
    rw [hcounted]
  · have hcounted : ¬ min failures countLimit < 32 :=
      Nat.not_lt.2 (Nat.le_min.2 ⟨Nat.not_lt.1 hfew, by decide⟩)
    rw [if_neg hcounted, if_neg hfew]

/-- Whatever is asked of a limiter in whatever order, every key backs off by its own failures. -/
theorem history_accounted (backoff : Backoff) (calls : List LimiterCall) :
    Accounted backoff calls ((RateLimiter.new backoff).history calls) where
  answered := history_calls _ calls
  due before call answer after h := (Knows.new backoff).history_due h
  apart key := history_filter rfl rfl calls
  grows before key first middle second after h hkept := by
    have hfirst := history_delay (h.trans (List.append_assoc ..))
    have hsecond := history_delay h
    rw [hfirst, hsecond, List.map_append, List.map_cons, streak_append (by simpa using hkept)]
    exact backoff.delay_for_mono (by omega)
  capped key delay hmem := by
    obtain ⟨before, after, h⟩ := List.append_of_mem hmem
    rw [history_delay h]
    exact backoff.delay_for_le _
  counted key number hmem := by
    obtain ⟨before, after, h⟩ := List.append_of_mem hmem
    rw [LimiterAnswer.count.inj ((Knows.new backoff).history_due h)]
    exact Nat.min_le_right _ _
  exact before key delay after h := by
    rw [history_delay h]
    exact delay_for_counted backoff _

end RateLimiter

end FunctionOperator
