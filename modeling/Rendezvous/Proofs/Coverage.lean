import Mathlib.Data.List.Forall2
import Mathlib.Order.Bounds.Basic
import Rendezvous.Proofs.Sweeps
import Rendezvous.Proofs.Times
import Rendezvous.Report

/-!
# Minute by minute

A slot with two valid times covers the minutes between them.  The sweep, which looks at nothing
but the ends of slots, counts the minute that most slots cover, and joins the busy minutes into
ranges that cannot be made longer.
-/

namespace Rendezvous

/-! ## What a slot covers -/

namespace Slot

/-- When a slot begins: with the day, where it does not say. -/
def opening (slot : Slot) : String :=
  (TimeOfDay.given slot.start).getD TimeOfDay.dayStart

def closing (slot : Slot) : String :=
  (TimeOfDay.given slot.stop).getD TimeOfDay.dayEnd

def isTimed (slot : Slot) : Bool :=
  TimeOfDay.isValid slot.opening && TimeOfDay.isValid slot.closing

/-- Whether a slot with two valid times holds the minute from `minute` to `minute + 1`. -/
def covers (minute : Int) (slot : Slot) : Bool :=
  slot.isTimed && (TimeOfDay.minutes? slot.opening).any (· ≤ minute)
    && (TimeOfDay.minutes? slot.closing).any (minute + 1 ≤ ·)

/-- A slot with a time that is not valid, or that does not end after it begins. -/
def Void (slot : Slot) : Prop :=
  slot.isTimed = false
    ∨ ∃ first last, TimeOfDay.minutes? slot.opening = some first
      ∧ TimeOfDay.minutes? slot.closing = some last ∧ last ≤ first

variable {slot : Slot} {minute : Int}

/-- Valid times can be counted in minutes of a day. -/
theorem exists_minutes_of_isTimed (timed : slot.isTimed) :
    ∃ first last : Nat, first ≤ 1439 ∧ last ≤ 1439
      ∧ TimeOfDay.minutes? slot.opening = some (first : Int)
      ∧ TimeOfDay.minutes? slot.closing = some (last : Int) := by
  obtain ⟨valid, valid'⟩ := Bool.and_eq_true_iff.mp timed
  obtain ⟨first, early, begins⟩ := TimeOfDay.legible_of_isValid valid
  obtain ⟨last, late, ends⟩ := TimeOfDay.legible_of_isValid valid'
  exact ⟨first, last, early, late, begins, ends⟩

theorem interval?_eq_some_iff {interval : Interval} :
    slot.interval? = some interval
      ↔ slot.isTimed ∧ TimeOfDay.minutes? slot.opening = some interval.start
        ∧ TimeOfDay.minutes? slot.closing = some interval.stop := by
  have unfolded : slot.interval? = if slot.isTimed then do
      let first ← TimeOfDay.minutes? slot.opening
      let last ← TimeOfDay.minutes? slot.closing
      pure ⟨first, last⟩
    else none := rfl
  rw [unfolded]
  cases slot.isTimed with
  | false => simp
  | true =>
    simp only [if_true, Option.bind_eq_bind, Option.bind_eq_some_iff, Option.pure_def,
      Option.some.injEq, true_and]
    constructor
    · rintro ⟨first, begins, last, ends, rfl⟩
      exact ⟨begins, ends⟩
    · rintro ⟨begins, ends⟩
      exact ⟨_, begins, _, ends, rfl⟩

theorem isSome_interval? (slot : Slot) : slot.interval?.isSome = slot.isTimed := by
  rw [Bool.eq_iff_iff, Option.isSome_iff_exists]
  constructor
  · rintro ⟨interval, found⟩
    exact (interval?_eq_some_iff.mp found).1
  · intro timed
    obtain ⟨first, last, -, -, begins, ends⟩ := exists_minutes_of_isTimed timed
    exact ⟨⟨first, last⟩, interval?_eq_some_iff.mpr ⟨timed, begins, ends⟩⟩

theorem filterMap_interval?_eq_nil_iff {slots : List Slot} :
    slots.filterMap interval? = [] ↔ ∀ slot ∈ slots, slot.isTimed = false := by
  simp only [List.filterMap_eq_nil_iff, ← isSome_interval?, Option.isSome_eq_false_iff,
    Option.isNone_iff_eq_none]

/-- The interval of a slot is within the day. -/
theorem bounds_of_interval? {interval : Interval} (found : slot.interval? = some interval) :
    (0 ≤ interval.start ∧ interval.start ≤ TimeOfDay.lastMinute)
      ∧ 0 ≤ interval.stop ∧ interval.stop ≤ TimeOfDay.lastMinute := by
  obtain ⟨timed, begins, ends⟩ := interval?_eq_some_iff.mp found
  obtain ⟨first, last, early, late, begins', ends'⟩ := exists_minutes_of_isTimed timed
  have start : interval.start = first := Option.some.inj (begins.symm.trans begins')
  have stop : interval.stop = last := Option.some.inj (ends.symm.trans ends')
  have day : TimeOfDay.lastMinute = 1439 := rfl
  omega

theorem covers_eq (minute : Int) (slot : Slot) :
    slot.covers minute = slot.interval?.any (Sweep.spans minute (minute + 1)) := by
  unfold covers
  cases timed : slot.isTimed with
  | false =>
    have absent : slot.interval? = none := by
      rw [← Option.not_isSome_iff_eq_none, isSome_interval?, timed]
      exact Bool.false_ne_true
    simp [absent]
  | true =>
    obtain ⟨first, last, -, -, begins, ends⟩ := exists_minutes_of_isTimed timed
    have found : slot.interval? = some ⟨first, last⟩ :=
      interval?_eq_some_iff.mpr ⟨timed, begins, ends⟩
    simp [found, begins, ends, Sweep.spans]

theorem Void.covers_eq_false (void : slot.Void) (minute : Int) : slot.covers minute = false := by
  unfold covers
  rcases void with invalid | ⟨first, last, begins, ends, backward⟩
  · simp [invalid]
  · simp only [begins, ends, Option.any_some, Bool.and_eq_false_iff, decide_eq_false_iff_not]
    omega

/-- Three of these are counted, two at a time: one is turned around, one is empty, and two have no
valid times. -/
def samples : List Slot :=
  [⟨some "22:00", some "06:00"⟩, ⟨some "09:00", some "09:00"⟩, ⟨some "noon", none⟩,
    ⟨some "", some "10:00"⟩, ⟨some "9:30", none⟩, ⟨some "10:00", some "24:00"⟩,
    ⟨some "20:00", some "21:00"⟩]

end Slot

namespace Sweep

variable {slots : List Slot} {intervals : List Interval} {threshold minute : Int}

theorem coverage_slots (slots : List Slot) (minute : Int) :
    coverage (slots.filterMap Slot.interval?) minute = slots.countP (Slot.covers minute) := by
  rw [coverage_filterMap]
  exact List.countP_congr fun slot _ => by rw [Slot.covers_eq]

/-! ## The fullest minute of the day -/

theorem isGreatest_covered (slots : List Slot) :
    IsGreatest (Set.range fun minute => slots.countP (Slot.covers minute))
      (maxSimultaneous slots) := by
  constructor
  · by_cases occupied : 0 < maxSimultaneous slots
    · obtain ⟨minute, fullest⟩ := exists_coverage_eq occupied
      exact ⟨minute, (coverage_slots slots minute).symm.trans fullest⟩
    · -- nobody is counted, so no minute is covered
      have free := coverage_le_maxSimultaneous slots 0
      rw [coverage_slots] at free
      exact ⟨0, by dsimp only; omega⟩
  · rintro _ ⟨minute, rfl⟩
    dsimp only
    rw [← coverage_slots]
    exact coverage_le_maxSimultaneous slots minute

/-- The count of slots at the same time is the greatest number of slots that cover a minute.  No
slot with valid times fails to be read, a slot that is void does not count, and the order of the
slots does not matter. -/
theorem maxSimultaneous_isGreatest (slots : List Slot) :
    IsGreatest (Set.range fun minute => slots.countP (Slot.covers minute)) (maxSimultaneous slots)
    ∧ (∀ slot ∈ slots, slot.isTimed →
      ∃ interval, slot.interval? = some interval
        ∧ TimeOfDay.minutes? slot.opening = some interval.start
        ∧ TimeOfDay.minutes? slot.closing = some interval.stop)
    ∧ (∀ slot : Slot, slot.Void → maxSimultaneous (slot :: slots) = maxSimultaneous slots)
    ∧ ∀ others, slots.Perm others → maxSimultaneous slots = maxSimultaneous others := by
  refine ⟨isGreatest_covered slots, ?_, ?_, fun others same => maxSimultaneous_perm same⟩
  · intro slot _ timed
    obtain ⟨interval, found⟩ := Option.isSome_iff_exists.mp (slot.isSome_interval?.trans timed)
    exact ⟨interval, found, (Slot.interval?_eq_some_iff.mp found).2⟩
  · intro slot void
    have same : (fun minute => (slot :: slots).countP (Slot.covers minute))
        = fun minute => slots.countP (Slot.covers minute) := by
      funext minute
      rw [List.countP_cons_of_neg (by simp [void.covers_eq_false])]
    exact (same ▸ isGreatest_covered (slot :: slots)).unique (isGreatest_covered slots)

theorem maxSimultaneous_isGreatest_samples :
    IsGreatest (Set.range fun minute => Slot.samples.countP (Slot.covers minute)) 2
    ∧ (∃ interval, (⟨some "9:30", none⟩ : Slot).interval? = some interval
      ∧ TimeOfDay.minutes? "9:30" = some interval.start)
    ∧ (⟨some "noon", none⟩ : Slot).Void
    ∧ maxSimultaneous (⟨some "noon", none⟩ :: Slot.samples) = 2
    ∧ maxSimultaneous Slot.samples.reverse = 2 := by
  obtain ⟨greatest, read, void, order⟩ := maxSimultaneous_isGreatest Slot.samples
  have counted : maxSimultaneous Slot.samples = 2 := by decide +kernel
  have illegible : (⟨some "noon", none⟩ : Slot).Void := .inl (by decide +kernel)
  obtain ⟨interval, found, begins, -⟩ :=
    read ⟨some "9:30", none⟩ (by decide) (by decide +kernel)
  rw [counted] at greatest
  exact ⟨greatest, ⟨interval, found, begins⟩, illegible, (void _ illegible).trans counted,
    (order _ (List.reverse_perm _).symm).symm.trans counted⟩

/-! ## Busy ranges -/

/-- Pieces that follow each other from one minute to another, on each of which every minute has
the count of the piece. -/
inductive Divides (count : Int → Nat) : Int → List Piece → Int → Prop where
  | done (low : Int) : Divides count low [] low
  | piece (piece : Piece) {rest : List Piece} {high : Int} (forward : piece.start < piece.stop)
      (level : ∀ minute, piece.start ≤ minute → minute < piece.stop → count minute = piece.count)
      (later : Divides count piece.stop rest high) :
      Divides count piece.start (piece :: rest) high

/-- The counts of the minutes between two. -/
def countsWithin (count : Int → Nat) (start stop : Int) : Set Nat :=
  {found | ∃ minute, start ≤ minute ∧ minute < stop ∧ count minute = found}

/-- The ranges of minutes from `low` to `high` on which a count reaches a threshold, none of which
can be made longer, each with its largest count. -/
structure Maximal (count : Int → Nat) (threshold low high : Int) (ranges : List Piece) : Prop where
  within : ∀ range ∈ ranges, low ≤ range.start ∧ range.start < range.stop ∧ range.stop ≤ high
  apart : ranges.Pairwise fun range later => range.stop < later.start
  busy : ∀ minute, low ≤ minute → minute < high →
    ((∃ range ∈ ranges, range.start ≤ minute ∧ minute < range.stop) ↔ threshold ≤ count minute)
  peak : ∀ range ∈ ranges, IsGreatest (countsWithin count range.start range.stop) range.count

section

variable {count : Int → Nat} {high : Int} {piece next : Piece} {ranges later : List Piece}

theorem countsWithin_union {first middle last : Int} (before : first ≤ middle)
    (after : middle ≤ last) :
    countsWithin count first last
      = countsWithin count first middle ∪ countsWithin count middle last := by
  ext found
  constructor
  · rintro ⟨minute, begun, short, counted⟩
    rcases Int.lt_or_le minute middle with here | there
    · exact .inl ⟨minute, begun, here, counted⟩
    · exact .inr ⟨minute, there, short, counted⟩
  · rintro (⟨minute, begun, short, counted⟩ | ⟨minute, begun, short, counted⟩)
    · exact ⟨minute, begun, Int.lt_of_lt_of_le short after, counted⟩
    · exact ⟨minute, Int.le_trans before begun, short, counted⟩

theorem isGreatest_level (forward : piece.start < piece.stop)
    (level : ∀ minute, piece.start ≤ minute → minute < piece.stop → count minute = piece.count) :
    IsGreatest (countsWithin count piece.start piece.stop) piece.count := by
  constructor
  · exact ⟨piece.start, Int.le_refl _, forward, level _ (Int.le_refl _) forward⟩
  · rintro _ ⟨minute, after, before, rfl⟩
    exact Nat.le_of_eq (level minute after before)

namespace Maximal

theorem nil (low : Int) : Maximal count threshold low low [] := by
  refine ⟨?_, .nil, ?_, ?_⟩
  · simp
  · intro minute after before
    omega
  · simp

variable (forward : piece.start < piece.stop)
  (level : ∀ minute, piece.start ≤ minute → minute < piece.stop → count minute = piece.count)

include forward level

/-- A piece that is not busy adds nothing. -/
theorem skip (sparse : piece.count < threshold)
    (maximal : Maximal count threshold piece.stop high ranges) :
    Maximal count threshold piece.start high ranges := by
  refine ⟨?_, maximal.apart, ?_, maximal.peak⟩
  · intro range inside
    obtain ⟨after, rest⟩ := maximal.within range inside
    exact ⟨by omega, rest⟩
  · intro minute after before
    by_cases here : minute < piece.stop
    · have quiet := level minute after here
      constructor
      · rintro ⟨range, inside, begun, -⟩
        have beyond := (maximal.within range inside).1
        omega
      · intro reached
        omega
    · exact maximal.busy minute (by omega) before

/-- A busy piece that no range follows directly is a range. -/
theorem cons (busy : threshold ≤ piece.count)
    (apart : ∀ next ∈ ranges.head?, piece.stop ≠ next.start)
    (maximal : Maximal count threshold piece.stop high ranges) (most : piece.stop ≤ high) :
    Maximal count threshold piece.start high (piece :: ranges) := by
  refine ⟨?_, ?_, ?_, ?_⟩
  · rintro range (_ | ⟨_, inside⟩)
    · exact ⟨Int.le_refl _, forward, most⟩
    · obtain ⟨after, rest⟩ := maximal.within range inside
      exact ⟨by omega, rest⟩
  · apply List.pairwise_cons.mpr
    refine ⟨?_, maximal.apart⟩
    intro range inside
    cases ranges with
    | nil => cases inside
    | cons next later =>
      have gap := apart next rfl
      obtain ⟨after, nonempty, -⟩ := maximal.within next List.mem_cons_self
      rcases List.mem_cons.mp inside with rfl | inside
      · omega
      · have ahead := (List.pairwise_cons.mp maximal.apart).1 range inside
        omega
  · intro minute after before
    simp only [List.mem_cons, exists_eq_or_imp]
    by_cases here : minute < piece.stop
    · have full := level minute after here
      exact iff_of_true (.inl ⟨after, here⟩) (by omega)
    · rw [← maximal.busy minute (by omega) before, or_iff_right]
      exact fun own => here own.2
  · rintro range (_ | ⟨_, inside⟩)
    · exact isGreatest_level forward level
    · exact maximal.peak range inside

/-- A busy piece makes a range longer that follows it directly. -/
theorem extend (busy : threshold ≤ piece.count) (follows : piece.stop = next.start)
    (maximal : Maximal count threshold piece.stop high (next :: later)) :
    Maximal count threshold piece.start high
      (⟨piece.start, next.stop, max piece.count next.count⟩ :: later) := by
  obtain ⟨-, nonempty, most⟩ := maximal.within next List.mem_cons_self
  obtain ⟨ahead, apart⟩ := List.pairwise_cons.mp maximal.apart
  refine ⟨?_, List.pairwise_cons.mpr ⟨ahead, apart⟩, ?_, ?_⟩
  · rintro range (_ | ⟨_, inside⟩)
    · exact ⟨Int.le_refl _, Int.lt_trans forward (follows ▸ nonempty), most⟩
    · obtain ⟨after, rest⟩ := maximal.within range (List.mem_cons_of_mem _ inside)
      exact ⟨by omega, rest⟩
  · intro minute after before
    simp only [List.mem_cons, exists_eq_or_imp]
    by_cases here : minute < piece.stop
    · have full := level minute after here
      exact iff_of_true (.inl ⟨after, by omega⟩) (by omega)
    · rw [← maximal.busy minute (by omega) before]
      simp only [List.mem_cons, exists_eq_or_imp]
      exact or_congr_left ⟨fun own => ⟨by omega, own.2⟩, fun own => ⟨after, own.2⟩⟩
  · rintro range (_ | ⟨_, inside⟩)
    · dsimp only
      rw [countsWithin_union (Int.le_of_lt forward) (Int.le_of_lt (follows ▸ nonempty))]
      have own := isGreatest_level forward level
      have later := maximal.peak next List.mem_cons_self
      rw [← follows] at later
      exact own.union later
    · exact maximal.peak range (List.mem_cons_of_mem _ inside)

end Maximal

theorem Divides.low_le {low : Int} {row : List Piece} (divides : Divides count low row high) :
    low ≤ high := by
  induction divides with
  | done low => exact Int.le_refl low
  | piece _ forward level later ih => omega

/-- Joining the busy pieces makes the ranges as long as they can be. -/
theorem Divides.maximal_join {low : Int} {row : List Piece}
    (divides : Divides count low row high) :
    Maximal count threshold low high (join threshold row) := by
  induction divides with
  | done low => exact .nil low
  | @piece piece rest high forward level later ih =>
    unfold join
    by_cases sparse : piece.count < threshold
    · rw [if_pos sparse]
      exact ih.skip forward level sparse
    · rw [if_neg sparse]
      have busy : threshold ≤ piece.count := by omega
      cases joined : join threshold rest with
      | nil =>
        rw [joined] at ih
        exact ih.cons forward level busy (by simp) later.low_le
      | cons next others =>
        rw [joined] at ih
        by_cases follows : piece.stop = next.start
        · simp only [follows, if_true]
          exact ih.extend forward level busy follows
        · simp only [follows, if_false]
          refine ih.cons forward level busy ?_ later.low_le
          simpa using follows

end

/-- The pieces between ascending cuts follow each other from the first cut to the last. -/
theorem divides_piecesBetween {first high : Int} {rest : List Int}
    (ascending : (first :: rest).Pairwise (· < ·)) (last : high ∈ first :: rest)
    (most : ∀ cut ∈ first :: rest, cut ≤ high)
    (level : ∀ piece ∈ piecesBetween intervals (first :: rest), ∀ minute, piece.start ≤ minute →
      minute < piece.stop → coverage intervals minute = piece.count) :
    Divides (coverage intervals) first (piecesBetween intervals (first :: rest)) high := by
  induction rest generalizing first with
  | nil =>
    rw [List.mem_singleton] at last
    subst last
    exact .done _
  | cons second rest ih =>
    obtain ⟨above, ascending'⟩ := List.pairwise_cons.mp ascending
    have next : first < second := above second List.mem_cons_self
    have least := most second (List.mem_cons_of_mem _ List.mem_cons_self)
    have last' : high ∈ second :: rest := by
      rcases List.mem_cons.mp last with rfl | among
      · omega
      · exact among
    refine .piece ⟨first, second, _⟩ next (level _ List.mem_cons_self) ?_
    apply ih ascending' last'
    · exact fun cut among => most cut (List.mem_cons_of_mem _ among)
    · exact fun piece among => level piece (List.mem_cons_of_mem _ among)

/-- Intervals of one day divide it. -/
theorem divides_pieces
    (bounds : ∀ interval ∈ intervals, (0 ≤ interval.start ∧ interval.start ≤ TimeOfDay.lastMinute)
      ∧ 0 ≤ interval.stop ∧ interval.stop ≤ TimeOfDay.lastMinute) :
    Divides (coverage intervals) 0 (pieces intervals [0, TimeOfDay.lastMinute])
      TimeOfDay.lastMinute := by
  have range : ∀ cut ∈ cuts intervals [0, TimeOfDay.lastMinute],
      0 ≤ cut ∧ cut ≤ TimeOfDay.lastMinute := by
    intro cut among
    have day : TimeOfDay.lastMinute = 1439 := rfl
    rcases mem_cuts.mp among with edge | ⟨interval, inside, rfl | rfl⟩
    · simp only [List.mem_cons, List.not_mem_nil, or_false] at edge
      omega
    · exact (bounds interval inside).1
    · exact (bounds interval inside).2
  have level : ∀ piece ∈ pieces intervals [0, TimeOfDay.lastMinute], ∀ minute,
      piece.start ≤ minute → minute < piece.stop → coverage intervals minute = piece.count :=
    fun piece inside minute => coverage_of_mem_pieces inside
  have ascending := pairwise_cuts intervals [0, TimeOfDay.lastMinute]
  have begins : 0 ∈ cuts intervals [0, TimeOfDay.lastMinute] := mem_cuts.mpr (.inl (by simp))
  have ends : TimeOfDay.lastMinute ∈ cuts intervals [0, TimeOfDay.lastMinute] :=
    mem_cuts.mpr (.inl (by simp))
  unfold pieces at level ⊢
  cases cut : cuts intervals [0, TimeOfDay.lastMinute] with
  | nil => simp [cut] at begins
  | cons first rest =>
    rw [cut] at range level ascending begins ends
    have zero : first = 0 := by
      have least := (range first List.mem_cons_self).1
      rcases List.mem_cons.mp begins with same | among
      · exact same.symm
      · have above := (List.pairwise_cons.mp ascending).1 0 among
        omega
    subst zero
    exact divides_piecesBetween ascending ends (fun cut among => (range cut among).2) level

end Sweep

/-- What is told of a piece: its ends as times of day, written as they are stored, and its
count. -/
structure BusyTime.Spells (time : BusyTime) (piece : Piece) : Prop where
  start : TimeOfDay.minutes? time.start = some piece.start
  stop : TimeOfDay.minutes? time.stop = some piece.stop
  written : TimeOfDay.parse? time.start = some time.start
    ∧ TimeOfDay.parse? time.stop = some time.stop
  count : time.count = piece.count

theorem BusyTime.spells_of {piece : Piece} (least : 0 ≤ piece.start)
    (forward : piece.start < piece.stop) (most : piece.stop ≤ TimeOfDay.lastMinute) :
    (BusyTime.of piece).Spells piece := by
  have day : TimeOfDay.lastMinute = 1439 := rfl
  obtain ⟨first, begins⟩ := Int.eq_ofNat_of_zero_le least
  obtain ⟨last, ends⟩ := Int.eq_ofNat_of_zero_le (Int.le_of_lt (Int.lt_of_le_of_lt least forward))
  have early : first < 1440 := by omega
  have late : last < 1440 := by omega
  refine ⟨?_, ?_, ⟨?_, ?_⟩, rfl⟩ <;> dsimp only [BusyTime.of]
  · rw [begins, TimeOfDay.minutes?_ofMinutes early]
  · rw [ends, TimeOfDay.minutes?_ofMinutes late]
  · rw [begins, TimeOfDay.parse?_ofMinutes early]
  · rw [ends, TimeOfDay.parse?_ofMinutes late]

namespace Sweep

variable {slots : List Slot}

/-- Where a slot has valid times, the busy pieces are the longest ranges of the day with as many
slots as the threshold. -/
theorem maximal_busyPieces (threshold : Int) (valid : ∃ slot ∈ slots, slot.isTimed) :
    Maximal (fun minute => slots.countP (Slot.covers minute)) threshold 0 TimeOfDay.lastMinute
      (busyPieces slots threshold) := by
  have busy : busyPieces slots threshold
      = join threshold (pieces (slots.filterMap Slot.interval?) [0, TimeOfDay.lastMinute]) := by
    unfold busyPieces
    split
    next none =>
      obtain ⟨slot, inside, timed⟩ := valid
      rw [Slot.filterMap_interval?_eq_nil_iff.mp none slot inside] at timed
      cases timed
    next => rfl
  have counted : coverage (slots.filterMap Slot.interval?)
      = fun minute => slots.countP (Slot.covers minute) := funext (coverage_slots slots)
  rw [busy, ← counted]
  apply Divides.maximal_join
  apply divides_pieces
  intro interval inside
  obtain ⟨slot, -, found⟩ := List.mem_filterMap.mp inside
  exact Slot.bounds_of_interval? found

/-- What is told of a day are the longest ranges on which as many slots as the threshold cover
every minute, in order and with a minute at least between them, each with the largest number of
slots that cover a minute of it.  Where no slot has valid times nothing is told. -/
theorem busyTimes_maximal (slots : List Slot) (threshold : Int) :
    ((∀ slot ∈ slots, slot.isTimed = false) → (busyPieces slots threshold).map BusyTime.of = [])
    ∧ ((∃ slot ∈ slots, slot.isTimed) →
      ∃ ranges, List.Forall₂ BusyTime.Spells ((busyPieces slots threshold).map BusyTime.of) ranges
        ∧ Maximal (fun minute => slots.countP (Slot.covers minute)) threshold 0
            TimeOfDay.lastMinute ranges) := by
  constructor
  · intro invalid
    rw [busyPieces, Slot.filterMap_interval?_eq_nil_iff.mpr invalid, List.map_nil]
  · intro valid
    have maximal := maximal_busyPieces threshold valid
    refine ⟨_, ?_, maximal⟩
    rw [List.forall₂_map_left_iff, List.forall₂_same]
    intro piece inside
    obtain ⟨least, forward, most⟩ := maximal.within piece inside
    exact BusyTime.spells_of least forward most

theorem busyTimes_maximal_samples :
    (∃ slot ∈ Slot.samples, slot.isTimed)
    ∧ (∃ ranges, List.Forall₂ BusyTime.Spells [⟨"09:30", "10:00", 2⟩, ⟨"20:00", "21:00", 2⟩] ranges
      ∧ Maximal (fun minute => Slot.samples.countP (Slot.covers minute)) 2 0
          TimeOfDay.lastMinute ranges)
    ∧ (busyPieces [⟨some "noon", none⟩] 0).map BusyTime.of = [] := by
  have valid : ∃ slot ∈ Slot.samples, slot.isTimed := by decide +kernel
  have told : (busyPieces Slot.samples 2).map BusyTime.of
      = [⟨"09:30", "10:00", 2⟩, ⟨"20:00", "21:00", 2⟩] := by decide +kernel
  have maximal := (busyTimes_maximal Slot.samples 2).2 valid
  rw [told] at maximal
  refine ⟨valid, maximal, (busyTimes_maximal [⟨some "noon", none⟩] 0).1 ?_⟩
  decide +kernel

end Sweep

end Rendezvous
