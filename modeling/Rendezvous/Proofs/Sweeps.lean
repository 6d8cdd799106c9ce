import Mathlib.Data.List.MinMax
import Mathlib.Order.Nat
import Rendezvous.Sweep

/-!
# Pieces of a day and their minutes

No interval begins or ends between two neighbouring cuts, so a piece is covered as each of its
minutes is.  Further cuts divide pieces and count nobody else: the largest count of all pieces is
that of the fullest minute, and so is the largest count of the busy ones where there are any.
-/

namespace Rendezvous.Sweep

variable {intervals : List Interval} {further ascent : List Int} {piece : Piece} {minute : Int}

/-! ## Cuts -/

@[simp] theorem mem_insertCut {cut other : Int} {ascent : List Int} :
    other ∈ insertCut cut ascent ↔ other = cut ∨ other ∈ ascent := by
  induction ascent with
  | nil => simp [insertCut]
  | cons next rest ih =>
    unfold insertCut
    by_cases before : cut < next
    · simp [before]
    · by_cases same : cut = next
      · simp [same]
      · simp [before, same, ih, or_left_comm]

theorem pairwise_insertCut (cut : Int) (ascending : ascent.Pairwise (· < ·)) :
    (insertCut cut ascent).Pairwise (· < ·) := by
  induction ascent with
  | nil => simp [insertCut]
  | cons next rest ih =>
    obtain ⟨above, ascending'⟩ := List.pairwise_cons.mp ascending
    unfold insertCut
    by_cases before : cut < next
    · rw [if_pos before, List.pairwise_cons]
      refine ⟨?_, ascending⟩
      intro other inside
      rcases List.mem_cons.mp inside with rfl | inside
      · exact before
      · exact Int.lt_trans before (above other inside)
    · by_cases same : cut = next
      · simpa [before, same] using ascending
      · rw [if_neg before, if_neg same, List.pairwise_cons]
        refine ⟨?_, ih ascending'⟩
        intro other inside
        rcases mem_insertCut.mp inside with rfl | inside
        · omega
        · exact above other inside

theorem mem_cuts {cut : Int} :
    cut ∈ cuts intervals further
      ↔ cut ∈ further ∨ ∃ interval ∈ intervals, cut = interval.start ∨ cut = interval.stop := by
  have inserted (loose : List Int) : cut ∈ loose.foldr insertCut [] ↔ cut ∈ loose := by
    induction loose with
    | nil => simp
    | cons first rest ih => simp [ih]
  rw [cuts, inserted, List.mem_append, List.mem_flatMap]
  simp

theorem pairwise_cuts (intervals : List Interval) (further : List Int) :
    (cuts intervals further).Pairwise (· < ·) := by
  unfold cuts
  generalize further ++ _ = loose
  induction loose with
  | nil => simp
  | cons first rest ih => exact pairwise_insertCut first ih

/-! ## Pieces -/

/-- A piece lies between neighbouring cuts and is counted by the intervals that span it. -/
theorem mem_piecesBetween :
    piece ∈ piecesBetween intervals ascent
      ↔ (∃ front back, ascent = front ++ piece.start :: piece.stop :: back)
        ∧ piece.count = intervals.countP (spans piece.start piece.stop) := by
  induction ascent with
  | nil => simp [piecesBetween]
  | cons start rest ih =>
    cases rest with
    | nil =>
      simp only [piecesBetween, List.not_mem_nil, false_iff, not_and]
      rintro ⟨front, back, same⟩
      have length := congrArg List.length same
      simp at length
      omega
    | cons stop later =>
      simp only [piecesBetween, List.mem_cons, ih]
      constructor
      · rintro (rfl | ⟨⟨front, back, same⟩, counted⟩)
        · exact ⟨⟨[], later, rfl⟩, rfl⟩
        · exact ⟨⟨start :: front, back, by simp [same]⟩, counted⟩
      · rintro ⟨⟨front, back, same⟩, counted⟩
        cases front with
        | nil =>
          left
          simp only [List.nil_append, List.cons.injEq] at same
          obtain ⟨rfl, rfl, -⟩ := same
          cases piece
          simp_all
        | cons first front =>
          right
          simp only [List.cons_append, List.cons.injEq] at same
          exact ⟨⟨front, back, same.2⟩, counted⟩

/-- No cut lies inside a piece. -/
theorem le_or_le_of_mem_piecesBetween (ascending : ascent.Pairwise (· < ·))
    (inside : piece ∈ piecesBetween intervals ascent) :
    piece.start < piece.stop ∧ ∀ cut ∈ ascent, cut ≤ piece.start ∨ piece.stop ≤ cut := by
  obtain ⟨⟨front, back, rfl⟩, -⟩ := mem_piecesBetween.mp inside
  simp only [List.pairwise_append, List.pairwise_cons, List.mem_cons] at ascending
  obtain ⟨-, ⟨later, above, -⟩, below⟩ := ascending
  refine ⟨later piece.stop (.inl rfl), ?_⟩
  intro cut among
  rcases List.mem_append.mp among with before | after
  · exact .inl (Int.le_of_lt (below cut before piece.start (.inl rfl)))
  · rcases List.mem_cons.mp after with rfl | after
    · exact .inl (Int.le_refl _)
    · rcases List.mem_cons.mp after with rfl | after
      · exact .inr (Int.le_refl _)
      · exact .inr (Int.le_of_lt (above cut after))

/-- Whoever covers a minute of a piece covers all of it. -/
theorem coverage_of_mem_pieces (inside : piece ∈ pieces intervals further)
    (after : piece.start ≤ minute) (before : minute < piece.stop) :
    coverage intervals minute = piece.count := by
  obtain ⟨-, apart⟩ := le_or_le_of_mem_piecesBetween (pairwise_cuts _ _) inside
  rw [(mem_piecesBetween.mp inside).2, coverage]
  apply List.countP_congr
  intro interval among
  have first := apart interval.start (mem_cuts.mpr (.inr ⟨interval, among, .inl rfl⟩))
  have last := apart interval.stop (mem_cuts.mpr (.inr ⟨interval, among, .inr rfl⟩))
  simp only [spans, Bool.and_eq_true, decide_eq_true_eq]
  omega

theorem start_lt_stop_of_mem_pieces (inside : piece ∈ pieces intervals further) :
    piece.start < piece.stop :=
  (le_or_le_of_mem_piecesBetween (pairwise_cuts _ _) inside).1

/-- A minute between two cuts lies in a piece. -/
theorem exists_mem_piecesBetween (ascending : ascent.Pairwise (· < ·)) {low high : Int}
    (lowest : low ∈ ascent) (highest : high ∈ ascent) (after : low ≤ minute)
    (before : minute < high) :
    ∃ piece ∈ piecesBetween intervals ascent, piece.start ≤ minute ∧ minute < piece.stop := by
  induction ascent generalizing low with
  | nil => cases lowest
  | cons start rest ih =>
    obtain ⟨above, ascending'⟩ := List.pairwise_cons.mp ascending
    have reached : start ≤ minute := by
      rcases List.mem_cons.mp lowest with rfl | among
      · exact after
      · exact Int.le_trans (Int.le_of_lt (above low among)) after
    have further : high ∈ rest := by
      rcases List.mem_cons.mp highest with rfl | among
      · omega
      · exact among
    cases rest with
    | nil => cases further
    | cons stop later =>
      by_cases here : minute < stop
      · exact ⟨_, List.mem_cons_self, reached, here⟩
      · obtain ⟨piece, among, within⟩ :=
          ih ascending' List.mem_cons_self further (Int.not_lt.mp here)
        exact ⟨piece, List.mem_cons_of_mem _ among, within⟩

/-- A minute that anybody covers lies in a piece. -/
theorem exists_mem_pieces (further : List Int) (covered : 0 < coverage intervals minute) :
    ∃ piece ∈ pieces intervals further, piece.start ≤ minute ∧ minute < piece.stop := by
  obtain ⟨interval, among, holds⟩ := List.countP_pos_iff.mp covered
  simp only [spans, Bool.and_eq_true, decide_eq_true_eq] at holds
  apply exists_mem_piecesBetween (pairwise_cuts _ _)
  · exact mem_cuts.mpr (.inr ⟨interval, among, .inl rfl⟩)
  · exact mem_cuts.mpr (.inr ⟨interval, among, .inr rfl⟩)
  · exact holds.1
  · omega

/-! ## The fullest minute -/

variable {slots : List Slot}

theorem coverage_filterMap (slots : List Slot) (minute : Int) :
    coverage (slots.filterMap Slot.interval?) minute
      = slots.countP fun slot => slot.interval?.any (spans minute (minute + 1)) := by
  rw [coverage, List.countP_filterMap]
  refine List.countP_congr fun slot _ => ?_
  cases found : slot.interval? <;> simp

/-- The largest count is that of some piece, unless it is nought. -/
theorem exists_piece_of_maxSimultaneous (occupied : 0 < maxSimultaneous slots) :
    ∃ piece ∈ pieces (slots.filterMap Slot.interval?) [], piece.count = maxSimultaneous slots := by
  have attained (counts : List Nat) (positive : 0 < counts.foldr max 0) :
      counts.foldr max 0 ∈ counts := by
    induction counts with
    | nil => simp at positive
    | cons first rest ih =>
      rw [List.foldr_cons] at positive ⊢
      rcases Nat.le_total (rest.foldr max 0) first with less | more
      · rw [Nat.max_eq_left less]
        exact List.mem_cons_self
      · rw [Nat.max_eq_right more] at positive ⊢
        exact List.mem_cons_of_mem _ (ih positive)
  exact List.mem_map.mp (attained _ occupied)

theorem count_le_maxSimultaneous
    (inside : piece ∈ pieces (slots.filterMap Slot.interval?) []) :
    piece.count ≤ maxSimultaneous slots :=
  List.le_max_of_le (List.mem_map_of_mem inside) (Nat.le_refl _)

/-- No minute is covered by more than are counted at the same time. -/
theorem coverage_le_maxSimultaneous (slots : List Slot) (minute : Int) :
    coverage (slots.filterMap Slot.interval?) minute ≤ maxSimultaneous slots := by
  by_cases covered : 0 < coverage (slots.filterMap Slot.interval?) minute
  · obtain ⟨piece, inside, after, before⟩ := exists_mem_pieces [] covered
    rw [coverage_of_mem_pieces inside after before]
    exact count_le_maxSimultaneous inside
  · omega

/-- Some minute is covered by as many as are counted at the same time. -/
theorem exists_coverage_eq (occupied : 0 < maxSimultaneous slots) :
    ∃ minute, coverage (slots.filterMap Slot.interval?) minute = maxSimultaneous slots := by
  obtain ⟨piece, inside, counted⟩ := exists_piece_of_maxSimultaneous occupied
  refine ⟨piece.start, ?_⟩
  rw [coverage_of_mem_pieces inside (Int.le_refl _) (start_lt_stop_of_mem_pieces inside), counted]

/-- Where every minute is covered by so many more at most, so many more are counted at most. -/
theorem maxSimultaneous_le_of_coverage {others : List Slot} {more : Nat}
    (fewer : ∀ minute, coverage (slots.filterMap Slot.interval?) minute
      ≤ coverage (others.filterMap Slot.interval?) minute + more) :
    maxSimultaneous slots ≤ maxSimultaneous others + more := by
  by_cases occupied : 0 < maxSimultaneous slots
  · obtain ⟨minute, fullest⟩ := exists_coverage_eq occupied
    have bound := coverage_le_maxSimultaneous others minute
    have step := fewer minute
    omega
  · omega

/-! ## The order of the slots -/

variable {first second : List Interval}

theorem cuts_perm (same : first.Perm second) (further : List Int) :
    cuts first further = cuts second further := by
  have ascending := pairwise_cuts first further
  have ascending' := pairwise_cuts second further
  apply List.Perm.eq_of_pairwise _ ascending ascending'
  · -- cuts ascend, so each is there once
    apply (List.perm_ext_iff_of_nodup (ascending.imp Int.ne_of_lt)
      (ascending'.imp Int.ne_of_lt)).mpr
    intro cut
    simp only [mem_cuts, same.mem_iff]
  · intro a b _ _ before after
    exact absurd before (Int.lt_asymm after)

theorem piecesBetween_perm (same : first.Perm second) (ascent : List Int) :
    piecesBetween first ascent = piecesBetween second ascent := by
  induction ascent with
  | nil => rfl
  | cons start rest ih =>
    cases rest with
    | nil => rfl
    | cons stop later => rw [piecesBetween, piecesBetween, same.countP_eq, ih]

theorem pieces_perm (same : first.Perm second) (further : List Int) :
    pieces first further = pieces second further := by
  unfold pieces
  rw [cuts_perm same, piecesBetween_perm same]

/-- The order of the slots does not count. -/
theorem maxSimultaneous_perm {others : List Slot} (same : slots.Perm others) :
    maxSimultaneous slots = maxSimultaneous others := by
  unfold maxSimultaneous
  rw [pieces_perm (same.filterMap _)]

theorem busyPieces_perm {others : List Slot} (same : slots.Perm others) (threshold : Int) :
    busyPieces slots threshold = busyPieces others threshold := by
  have same' := same.filterMap Slot.interval?
  unfold busyPieces
  cases valid : slots.filterMap Slot.interval? with
  | nil =>
    rw [valid] at same'
    rw [← same'.nil_eq]
  | cons interval rest =>
    rw [valid] at same'
    cases valid' : others.filterMap Slot.interval? with
    | nil =>
      rw [valid'] at same'
      cases same'.eq_nil
    | cons interval' rest' =>
      rw [valid'] at same'
      exact congrArg (join threshold) (pieces_perm same' _)

/-! ## Busy pieces -/

variable {threshold : Int} {row : List Piece}

/-- A joined piece has the count of one of its parts. -/
theorem exists_of_mem_join (inside : piece ∈ join threshold row) :
    ∃ part ∈ row, part.count = piece.count ∧ threshold ≤ part.count := by
  induction row generalizing piece with
  | nil => simp [join] at inside
  | cons first rest ih =>
    have later (among : piece ∈ join threshold rest) :
        ∃ part ∈ first :: rest, part.count = piece.count ∧ threshold ≤ part.count := by
      obtain ⟨part, inside, counted⟩ := ih among
      exact ⟨part, List.mem_cons_of_mem _ inside, counted⟩
    unfold join at inside
    by_cases sparse : first.count < threshold
    · rw [if_pos sparse] at inside
      exact later inside
    · rw [if_neg sparse] at inside
      have own : ∃ part ∈ first :: rest, part.count = first.count ∧ threshold ≤ part.count :=
        ⟨first, List.mem_cons_self, rfl, by omega⟩
      cases joined : join threshold rest with
      | nil =>
        simp only [joined, List.mem_singleton] at inside
        exact inside ▸ own
      | cons next others =>
        rw [joined] at inside later
        by_cases follows : first.stop = next.start
        · simp only [follows, if_true, List.mem_cons] at inside
          rcases inside with rfl | among
          · -- the peak of the joined piece is the larger of two counts
            rcases Nat.le_total first.count next.count with less | more
            · rw [Nat.max_eq_right less]
              obtain ⟨part, inside, counted⟩ := ih (joined ▸ List.mem_cons_self)
              exact ⟨part, List.mem_cons_of_mem _ inside, counted⟩
            · rw [Nat.max_eq_left more]
              exact own
          · exact later (List.mem_cons_of_mem _ among)
        · simp only [follows, if_false, List.mem_cons] at inside
          rcases inside with rfl | among
          · exact own
          · exact later (List.mem_cons.mpr among)

/-- A piece that reaches the threshold goes into a joined piece with no smaller count. -/
theorem exists_mem_join (inside : piece ∈ row) (busy : threshold ≤ piece.count) :
    ∃ joined ∈ join threshold row, piece.count ≤ joined.count := by
  induction row with
  | nil => cases inside
  | cons first rest ih =>
    unfold join
    rcases List.mem_cons.mp inside with rfl | among
    · rw [if_neg (by omega)]
      cases join threshold rest with
      | nil => exact ⟨piece, List.mem_cons_self, Nat.le_refl _⟩
      | cons next others =>
        by_cases follows : piece.stop = next.start
        · simp [follows]
        · simp [follows]
    · obtain ⟨joined, present, larger⟩ := ih among
      by_cases sparse : first.count < threshold
      · rw [if_pos sparse]
        exact ⟨joined, present, larger⟩
      · rw [if_neg sparse]
        cases found : join threshold rest with
        | nil => simp [found] at present
        | cons next others =>
          rw [found] at present
          by_cases follows : first.stop = next.start
          · simp only [follows, if_true, List.mem_cons, exists_eq_or_imp]
            rcases List.mem_cons.mp present with rfl | present
            · exact .inl (Nat.le_trans larger (Nat.le_max_right _ _))
            · exact .inr ⟨joined, present, larger⟩
          · simp only [follows, if_false]
            exact ⟨joined, List.mem_cons_of_mem _ present, larger⟩

theorem busyPieces_eq_join (positive : 0 < threshold) :
    busyPieces slots threshold
      = join threshold (pieces (slots.filterMap Slot.interval?) [0, TimeOfDay.lastMinute]) := by
  unfold busyPieces
  cases valid : slots.filterMap Slot.interval? with
  | nil =>
    -- nobody covers the only piece, which is the whole day
    have whole : pieces [] [0, TimeOfDay.lastMinute] = [⟨0, TimeOfDay.lastMinute, 0⟩] := by decide
    simp [whole, join, positive]
  | cons first rest => rfl

/-- A busy piece counts as many as some minute has. -/
theorem count_le_of_mem_busyPieces (positive : 0 < threshold)
    (inside : piece ∈ busyPieces slots threshold) :
    threshold ≤ piece.count ∧ piece.count ≤ maxSimultaneous slots := by
  rw [busyPieces_eq_join positive] at inside
  obtain ⟨part, among, counted, busy⟩ := exists_of_mem_join inside
  have covered := coverage_of_mem_pieces among (Int.le_refl _) (start_lt_stop_of_mem_pieces among)
  rw [← counted, ← covered]
  exact ⟨covered ▸ busy, coverage_le_maxSimultaneous slots _⟩

/-- Where as many as the threshold are there at the same time, a busy piece counts them. -/
theorem exists_mem_busyPieces (positive : 0 < threshold)
    (busy : threshold ≤ maxSimultaneous slots) :
    ∃ piece ∈ busyPieces slots threshold, piece.count = maxSimultaneous slots := by
  have occupied : 0 < maxSimultaneous slots := by omega
  obtain ⟨minute, fullest⟩ := exists_coverage_eq occupied
  obtain ⟨part, among, after, before⟩ :=
    exists_mem_pieces [0, TimeOfDay.lastMinute] (fullest.symm ▸ occupied)
  rw [coverage_of_mem_pieces among after before] at fullest
  obtain ⟨piece, joined, larger⟩ := exists_mem_join among (fullest.symm ▸ busy)
  rw [← busyPieces_eq_join positive] at joined
  have bound := (count_le_of_mem_busyPieces positive joined).2
  exact ⟨piece, joined, by omega⟩

end Rendezvous.Sweep
