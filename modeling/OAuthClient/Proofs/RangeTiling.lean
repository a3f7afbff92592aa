import Mathlib
import OAuthClient.Proofs.ActionLaws
import OAuthClient.Upload.Ranges

/-! # Tiling by ranges

The ranges into which bytes are cut follow each other without a gap, so every
position before the start of one of them lies in exactly one earlier range, and
the place that a range is sent with tells which one it is.
-/

namespace OAuthClient

namespace ByteRange

/-- Whether a position lies in a range. -/
def Contains (range : ByteRange) (position : Int) : Prop :=
  range.start ≤ position ∧ position ≤ range.stop

theorem isDigit_of_mem_toString {n : Nat} {c : Char} (h : c ∈ (toString (n : Int)).toList) :
    c.isDigit = true := by
  change c ∈ (Nat.repr n).toList at h
  rw [Nat.toList_repr] at h
  exact Nat.isDigit_of_mem_toDigits (by decide) (by decide) h

/-- The digits of the first position come before the hyphen in the place of a range. -/
theorem takeWhile_contentRange {range : ByteRange} {n : Nat} (hstart : range.start = n)
    (size : Int) : ((range.contentRange size).toList.drop 6).takeWhile Char.isDigit =
      (toString (n : Int)).toList := by
  -- The unit with its space, six characters, stands in front of the digits.
  have hplace : (range.contentRange size).toList.drop 6 =
      (toString (n : Int)).toList ++
        '-' :: (toString range.stop ++ "/" ++ toString size).toList := by
    simp only [contentRange, hstart, String.toList_append, List.append_assoc]
    rfl
  rw [hplace, List.takeWhile_append_of_pos fun c => isDigit_of_mem_toString,
    List.takeWhile_cons_of_neg (by decide), List.append_nil]

/-- The place with which a range is sent says where it starts. -/
theorem start_eq_of_contentRange_eq {range other : ByteRange} {size : Int}
    (hrange : 0 ≤ range.start) (hother : 0 ≤ other.start)
    (h : range.contentRange size = other.contentRange size) : range.start = other.start := by
  obtain ⟨m, hm⟩ := Int.eq_ofNat_of_zero_le hrange
  obtain ⟨n, hn⟩ := Int.eq_ofNat_of_zero_le hother
  have hdigits := takeWhile_contentRange hm size
  rw [h, takeWhile_contentRange hn size] at hdigits
  rw [hm, hn]
  exact (Int.repr_injective (String.toList_inj.mp hdigits)).symm

end ByteRange

/-- Whether ranges follow each other without a gap from a position on. -/
def Consecutive : Int → List ByteRange → Prop
  | _, [] => True
  | first, range :: rest =>
      range.start = first ∧ first ≤ range.stop ∧ Consecutive (range.stop + 1) rest

namespace Consecutive

variable {first position : Int} {ranges earlier later : List ByteRange} {range other : ByteRange}

theorem first_le_start (h : Consecutive first ranges) (hrange : range ∈ ranges) :
    first ≤ range.start := by
  induction ranges generalizing first with
  | nil => cases hrange
  | cons head rest ih =>
      obtain ⟨hstart, hstop, hrest⟩ := h
      rcases List.mem_cons.mp hrange with rfl | hrange
      · omega
      · have hlater := ih hrest hrange
        omega

theorem start_le_stop (h : Consecutive first ranges) (hrange : range ∈ ranges) :
    range.start ≤ range.stop := by
  induction ranges generalizing first with
  | nil => cases hrange
  | cons head rest ih =>
      obtain ⟨hstart, hstop, hrest⟩ := h
      rcases List.mem_cons.mp hrange with rfl | hrange
      · omega
      · exact ih hrest hrange

/-- Every position before the start of a range lies in an earlier one. -/
theorem covers (h : Consecutive first (earlier ++ range :: later)) (hfirst : first ≤ position)
    (hposition : position < range.start) : ∃ other ∈ earlier, other.Contains position := by
  induction earlier generalizing first with
  | nil =>
      have hstart := h.1
      omega
  | cons head earlier ih =>
      obtain ⟨hstart, hstop, hrest⟩ := h
      by_cases hhead : position ≤ head.stop
      · exact ⟨head, List.mem_cons_self, by omega, hhead⟩
      · obtain ⟨other, hother, hcontains⟩ := ih hrest (by omega)
        exact ⟨other, List.mem_cons_of_mem _ hother, hcontains⟩

/-- A position lies in one range only. -/
theorem eq_of_contains (h : Consecutive first ranges) (hrange : range ∈ ranges)
    (hother : other ∈ ranges) (hcontains : range.Contains position)
    (hcontains' : other.Contains position) : range = other := by
  induction ranges generalizing first with
  | nil => cases hrange
  | cons head rest ih =>
      obtain ⟨hstart, hstop, hrest⟩ := h
      obtain ⟨hge, hle⟩ := hcontains
      obtain ⟨hge', hle'⟩ := hcontains'
      rcases List.mem_cons.mp hrange with hhead | htail <;>
        rcases List.mem_cons.mp hother with hhead' | htail'
      · rw [hhead, hhead']
      · have hlater := first_le_start hrest htail'
        rw [hhead] at hle
        omega
      · have hlater := first_le_start hrest htail
        rw [hhead'] at hle'
        omega
      · exact ih hrest htail htail'

theorem eq_of_start_eq (h : Consecutive first ranges) (hrange : range ∈ ranges)
    (hother : other ∈ ranges) (hstart : range.start = other.start) : range = other :=
  h.eq_of_contains hrange hother ⟨le_refl _, h.start_le_stop hrange⟩
    ⟨hstart.ge, hstart ▸ h.start_le_stop hother⟩

/-- A range that comes later starts later. -/
theorem start_lt_start (h : Consecutive first (earlier ++ range :: later))
    (hother : other ∈ later) :
    range.start < other.start := by
  induction earlier generalizing first with
  | nil =>
      obtain ⟨hstart, hstop, hrest⟩ := h
      have hlater := first_le_start hrest hother
      omega
  | cons head earlier ih => exact ih h.2.2

theorem nodup (h : Consecutive first ranges) : ranges.Nodup := by
  induction ranges generalizing first with
  | nil => exact List.nodup_nil
  | cons head rest ih =>
      obtain ⟨hstart, hstop, hrest⟩ := h
      refine List.nodup_cons.mpr ⟨?_, ih hrest⟩
      intro hhead
      have hlater := first_le_start hrest hhead
      omega

end Consecutive

theorem Ranges.cut_succ_of_ne_nil (chunkSize count start : Nat) {data : Bytes} (h : data ≠ []) :
    cut chunkSize (count + 1) start data =
      { start, stop := start + (data.take chunkSize).length - 1, data := data.take chunkSize } ::
        cut chunkSize count (start + chunkSize) (data.drop chunkSize) := by
  cases data with
  | nil => exact absurd rfl h
  | cons b rest => rfl

/-- Bytes are cut into consecutive ranges. -/
theorem Ranges.cut_consecutive {chunkSize : Nat} (hpos : 0 < chunkSize) (count start : Nat)
    (data : Bytes) : Consecutive start (cut chunkSize count start data) := by
  induction count generalizing start data with
  | zero => trivial
  | succ count ih =>
      cases data with
      | nil => trivial
      | cons b rest =>
          have hlength := List.length_take (l := b :: rest) (i := chunkSize)
          rw [List.length_cons] at hlength
          refine ⟨rfl, ?_, ?_⟩
          · dsimp only
            omega
          · have hrest := ih (start + chunkSize) ((b :: rest).drop chunkSize)
            by_cases hshort : rest.length + 1 ≤ chunkSize
            · rw [List.drop_of_length_le (by rw [List.length_cons]; exact hshort)]
              cases count <;> trivial
            · have hnext : ((start + chunkSize : Nat) : Int) =
                  (start : Int) + ((b :: rest).take chunkSize).length - 1 + 1 := by omega
              rw [hnext] at hrest
              exact hrest

theorem ChunkSize.pos_of_check {size : Int} {count : Nat} (h : check size = .ok count) :
    0 < count := by
  unfold check at h
  split at h
  next => cases h
  next hsize =>
    cases h
    simp only [Bool.or_eq_true, decide_eq_true_eq, not_or] at hsize
    omega

/-- Bytes are cut into chunks of an acceptable size. -/
theorem Ranges.ofSize_int {size : Int} {chunkSize : Nat}
    (h : ChunkSize.check size = .ok chunkSize) (data : Bytes) :
    Ranges.ofSize data (.int size) = .ok
      { size := data.length, chunkSize
        pending := cut chunkSize (data.length / chunkSize + 1) 0 data } := by
  rw [ofSize, ChunkSize.checkValue, h]
  change ofBytes data size = _
  rw [ofBytes, h]
  rfl

/-- The ranges that are left when bytes have just been cut. -/
theorem Ranges.ofSize_consecutive {data : Bytes} {chunkSize : Value} {ranges : Ranges}
    (h : Ranges.ofSize data chunkSize = .ok ranges) : Consecutive 0 ranges.pending := by
  unfold ofSize at h
  obtain ⟨accepted, _, h⟩ := Failure.of_bind_ok h
  cases accepted with
  | int size =>
      obtain ⟨count, hcount, h⟩ := Failure.of_bind_ok h
      cases h
      exact cut_consecutive (ChunkSize.pos_of_check hcount) _ 0 data
  | _ => cases h

namespace Ranges

variable {chunkSize count start : Nat} {data : Bytes}

/-- The ranges put together are the bytes that were cut. -/
theorem flatMap_cut (h : data.length ≤ count * chunkSize) :
    (cut chunkSize count start data).flatMap ByteRange.data = data := by
  induction count generalizing start data with
  | zero =>
      rw [Nat.zero_mul, Nat.le_zero, List.length_eq_zero_iff] at h
      rw [h]
      rfl
  | succ count ih =>
      by_cases hdata : data = []
      · rw [hdata]
        rfl
      · have hrest : (data.drop chunkSize).length ≤ count * chunkSize := by
          rw [List.length_drop]
          rw [Nat.succ_mul] at h
          omega
        rw [cut_succ_of_ne_nil _ _ _ hdata, List.flatMap_cons, ih hrest, List.take_append_drop]

theorem contentLength_of_mem_cut {range : ByteRange} (h : range ∈ cut chunkSize count start data) :
    range.contentLength = range.data.length := by
  induction count generalizing start data with
  | zero => cases h
  | succ count ih =>
      by_cases hdata : data = []
      · rw [hdata] at h
        cases h
      · rw [cut_succ_of_ne_nil _ _ _ hdata, List.mem_cons] at h
        rcases h with rfl | h
        · dsimp only [ByteRange.contentLength]
          omega
        · exact ih h

/-- There are no more ranges than it takes to hold the bytes. -/
theorem length_cut (hpos : 0 < chunkSize) (h : data.length ≤ count * chunkSize) :
    (cut chunkSize count start data).length = (data.length + chunkSize - 1) / chunkSize := by
  induction count generalizing start data with
  | zero =>
      rw [Nat.zero_mul, Nat.le_zero] at h
      rw [h, Nat.div_eq_of_lt (by omega)]
      rfl
  | succ count ih =>
      by_cases hdata : data = []
      · rw [hdata, List.length_nil, Nat.div_eq_of_lt (by omega)]
        rfl
      · have hlength := List.length_pos_iff.mpr hdata
        have hrest : (data.drop chunkSize).length ≤ count * chunkSize := by
          rw [List.length_drop]
          rw [Nat.succ_mul] at h
          omega
        have hsum : data.length + chunkSize - 1 = data.length - 1 + chunkSize := by omega
        rw [cut_succ_of_ne_nil _ _ _ hdata, List.length_cons, ih hrest, List.length_drop, hsum,
          Nat.add_div_right _ hpos]
        by_cases hshort : data.length ≤ chunkSize
        · -- Only this chunk is left, and it need not be full.
          rw [Nat.div_eq_of_lt (by omega), Nat.div_eq_of_lt (by omega)]
        · congr 2
          omega

end Ranges

/-- Whether a value is the size of a chunk. -/
def Value.IsChunkSize (value : Value) : Prop :=
  ∃ size : Int, value = .int size ∧ 0 < size ∧ size % ChunkSize.unit = 0

theorem ChunkSize.check_eq_ok_iff {size : Int} {count : Nat} :
    check size = .ok count ↔ 0 < size ∧ size % unit = 0 ∧ count = size.toNat := by
  unfold check
  split
  next hrefused =>
    simp only [Bool.or_eq_true, decide_eq_true_eq, bne_iff_ne] at hrefused
    simp only [reduceCtorEq, false_iff]
    rintro ⟨hpos, hunit, _⟩
    rcases hrefused with hneg | hrest
    · omega
    · exact hrest hunit
  next haccepted =>
    simp only [Bool.or_eq_true, decide_eq_true_eq, bne_iff_ne, not_or, not_not] at haccepted
    simp [haccepted.2, Int.not_le.mp haccepted.1, eq_comm]

/-- Bytes can be cut into chunks of exactly these sizes. -/
theorem Ranges.exists_ofSize_iff {data : Bytes} {chunkSize : Value} :
    (∃ ranges, Ranges.ofSize data chunkSize = .ok ranges) ↔ chunkSize.IsChunkSize := by
  constructor
  · rintro ⟨ranges, h⟩
    obtain ⟨accepted, haccepted, h⟩ := Failure.of_bind_ok h
    cases chunkSize with
    | int size =>
        obtain ⟨count, hcount, _⟩ := Failure.of_map_ok haccepted
        obtain ⟨hpos, hunit, _⟩ := ChunkSize.check_eq_ok_iff.mp hcount
        exact ⟨size, rfl, hpos, hunit⟩
    | real size =>
        -- A number that is no integer may be acceptable, but nothing can be cut by it.
        unfold ChunkSize.checkValue at haccepted
        dsimp only at haccepted
        split at haccepted <;> cases haccepted
        cases h
    | _ => cases haccepted
  · rintro ⟨size, rfl, hpos, hunit⟩
    exact ⟨_, ofSize_int (ChunkSize.check_eq_ok_iff.mpr ⟨hpos, hunit, rfl⟩) data⟩

/-- The ranges of a session hold the bytes, each says how many it has, and there are as many as it
takes. -/
theorem Ranges.ofSize_holds {size : Nat} {data : Bytes} {ranges : Ranges} (hpos : 0 < size)
    (hunit : size % ChunkSize.unit = 0) (h : Ranges.ofSize data (.int size) = .ok ranges) :
    ranges.pending.flatMap ByteRange.data = data ∧
      (∀ range ∈ ranges.pending, range.contentLength = range.data.length) ∧
      ranges.pending.length = (data.length + size - 1) / size := by
  have hcheck : ChunkSize.check size = .ok size :=
    ChunkSize.check_eq_ok_iff.mpr ⟨by omega, by exact_mod_cast hunit, rfl⟩
  have hcount : data.length ≤ (data.length / size + 1) * size :=
    ((Nat.div_lt_iff_lt_mul hpos).mp (Nat.lt_succ_self _)).le
  rw [ofSize_int hcheck] at h
  obtain rfl := Except.ok.inj h
  exact ⟨flatMap_cut hcount, fun range hrange => contentLength_of_mem_cut hrange,
    length_cut hpos hcount⟩

/-- What ranges say that they have adds up to the bytes that they hold. -/
theorem ByteRange.sum_contentLength {ranges : List ByteRange}
    (h : ∀ range ∈ ranges, range.contentLength = range.data.length) :
    (ranges.map ByteRange.contentLength).sum = (ranges.flatMap ByteRange.data).length := by
  induction ranges with
  | nil => rfl
  | cons range rest ih =>
      rw [List.map_cons, List.sum_cons, List.flatMap_cons, List.length_append, Nat.cast_add,
        h range List.mem_cons_self, ih fun other hother => h other (List.mem_cons_of_mem _ hother)]

end OAuthClient
