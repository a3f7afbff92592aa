import OAuthClient.Proofs.RangeTiling

/-! # Handing out ranges

What the ranges of bytes look like one by one, and what any sequence of calls
gets of them. There are two calls that take the next range, one for the range
itself and one for its headers and bytes, and they share what is left.
-/

namespace OAuthClient

/-- The range of some bytes from a position on. -/
def ByteRange.of (start : Nat) (data : Bytes) : ByteRange where
  start := start
  stop := start + data.length - 1
  data := data

namespace Ranges

/-- Whether ranges are the chunks of some bytes, in order. -/
structure Partition (chunkSize : Nat) (bytes : Bytes) (ranges : List ByteRange) : Prop where
  count : ranges.length = (bytes.length + chunkSize - 1) / chunkSize
  start : ∀ k (h : k < ranges.length), ranges[k].start = k * chunkSize
  contentLength : ∀ range ∈ ranges, range.contentLength = range.stop - range.start + 1 ∧
    range.contentLength = range.data.length
  full : ∀ k (h : k + 1 < ranges.length), ranges[k].data.length = chunkSize
  last : ∀ k (h : k < ranges.length), k + 1 = ranges.length →
    1 ≤ ranges[k].data.length ∧ ranges[k].data.length ≤ chunkSize
  next : ∀ k (h : k + 1 < ranges.length), ranges[k + 1].start = ranges[k].stop + 1
  whole : ranges.flatMap ByteRange.data = bytes

/-- A call that takes the next range. -/
inductive Call where
  | next
  /-- Takes its headers and its bytes only. -/
  | popFront

/-- What a call gets; nothing once all ranges were handed out. -/
inductive Handout where
  | range (range : Option ByteRange)
  | parts (parts : Option (Members × Bytes))

namespace Call

/-- What a call gets, and the ranges after it. -/
def apply (ranges : Ranges) : Call → Handout × Ranges
  | .next =>
      match ranges.next? with
      | some (range, rest) => (.range (some range), rest)
      | none => (.range none, ranges)
  | .popFront =>
      match ranges.popFront? with
      | some (parts, rest) => (.parts (some parts), rest)
      | none => (.parts none, ranges)

/-- What a call makes of the range whose turn it is, out of so many bytes in all. -/
def handout (size : Nat) (turn : Option ByteRange) : Call → Handout
  | .next => .range turn
  | .popFront => .parts (turn.map fun range =>
      ([("Content-Length", .text (toString range.contentLength)),
        ("Content-Range", .text ("bytes " ++ toString range.start ++ "-" ++ toString range.stop ++
          "/" ++ toString (size : Int)))], range.data))

theorem apply_eq (ranges : Ranges) (call : Call) :
    call.apply ranges = (call.handout ranges.size ranges.pending[0]?,
      { ranges with pending := ranges.pending.drop 1 }) := by
  obtain ⟨size, chunkSize, pending⟩ := ranges
  cases call <;> cases pending <;> rfl

end Call

/-- What several calls get one after another, and the ranges after them. -/
def handOut (ranges : Ranges) : List Call → List Handout × Ranges
  | [] => ([], ranges)
  | call :: rest =>
      let (handout, left) := call.apply ranges
      let (handouts, left) := left.handOut rest
      (handout :: handouts, left)

/-- Each call gets the range whose turn it is, whichever calls came before. -/
theorem handOut_eq (ranges : Ranges) (calls : List Call) :
    ranges.handOut calls =
      (calls.mapIdx fun k call => call.handout ranges.size ranges.pending[k]?,
        { ranges with pending := ranges.pending.drop calls.length }) := by
  induction calls generalizing ranges with
  | nil => rfl
  | cons call rest ih =>
      rw [handOut, Call.apply_eq]
      dsimp only
      rw [ih, List.mapIdx_cons]
      simp only [List.getElem?_drop, List.drop_drop, List.length_cons, Nat.add_comm 1]

theorem handOut_of_exhausted {ranges : Ranges} (h : ranges.pending = []) (calls : List Call) :
    ranges.handOut calls = (calls.map (Call.handout ranges.size none), ranges) := by
  induction calls with
  | nil => rfl
  | cons call rest ih =>
      -- Taking from nothing leaves the same ranges.
      have hcall : call.apply ranges = (call.handout ranges.size none, ranges) := by
        obtain ⟨size, chunkSize, pending⟩ := ranges
        subst h
        cases call <;> rfl
      rw [handOut, hcall]
      dsimp only
      rw [ih, List.map_cons]

variable {chunkSize count start k : Nat} {data : Bytes}

theorem getElem?_cut (hcount : k < count) (hk : k * chunkSize < data.length) :
    (cut chunkSize count start data)[k]? =
      some (.of (start + k * chunkSize) ((data.drop (k * chunkSize)).take chunkSize)) := by
  -- Taking a chunk off moves the start and leaves other bytes, so both have to vary.
  induction k generalizing count start data with
  | zero =>
      obtain ⟨count, rfl⟩ := Nat.exists_eq_succ_of_ne_zero hcount.ne'
      rw [cut_succ_of_ne_nil _ _ _ (List.length_pos_iff.mp (by omega)), Nat.zero_mul]
      rfl
  | succ k ih =>
      obtain ⟨count, rfl⟩ := Nat.exists_eq_succ_of_ne_zero (Nat.ne_zero_of_lt hcount)
      rw [Nat.succ_mul, Nat.add_comm] at hk
      rw [cut_succ_of_ne_nil _ _ _ (List.length_pos_iff.mp (by omega)), List.getElem?_cons_succ,
        ih (by omega) (by rw [List.length_drop]; omega), List.drop_drop, Nat.succ_mul,
        Nat.add_comm (k * chunkSize), Nat.add_assoc]

/-- The ranges of bytes that are cut from their beginning. -/
theorem getElem_cut (hpos : 0 < chunkSize) (hcount : data.length ≤ count * chunkSize)
    (hk : k < (cut chunkSize count 0 data).length) :
    k * chunkSize < data.length ∧ (cut chunkSize count 0 data)[k] =
      .of (k * chunkSize) ((data.drop (k * chunkSize)).take chunkSize) := by
  have hturn : k < (data.length + chunkSize - 1) / chunkSize := length_cut hpos hcount ▸ hk
  have hbegun : k * chunkSize < data.length := by
    -- As many full chunks as there are up to this one exceed the bytes by less than a chunk.
    have hfull := (Nat.le_div_iff_mul_le hpos).mp (Nat.succ_le_of_lt hturn)
    rw [Nat.succ_mul] at hfull
    omega
  have hlimit : k < count := Nat.lt_of_mul_lt_mul_right (hbegun.trans_le hcount)
  have hrange : (cut chunkSize count 0 data)[k]? = _ := getElem?_cut hlimit hbegun
  rw [List.getElem?_eq_getElem hk, Nat.zero_add] at hrange
  exact ⟨hbegun, Option.some.inj hrange⟩

/-- Bytes that are cut often enough are partitioned. -/
theorem partition_cut (hpos : 0 < chunkSize) (hcount : data.length ≤ count * chunkSize) :
    Partition chunkSize data (cut chunkSize count 0 data) where
  count := length_cut hpos hcount
  start k hk := by
    rw [(getElem_cut hpos hcount hk).2]
    exact Int.natCast_mul k chunkSize
  contentLength range hrange := ⟨rfl, contentLength_of_mem_cut hrange⟩
  full k hk := by
    have hnext := (getElem_cut hpos hcount hk).1
    rw [Nat.succ_mul] at hnext
    rw [(getElem_cut hpos hcount (Nat.lt_of_succ_lt hk)).2, ByteRange.of, List.length_take,
      List.length_drop]
    omega
  last k hk _ := by
    obtain ⟨hbegun, hrange⟩ := getElem_cut hpos hcount hk
    rw [hrange, ByteRange.of, List.length_take, List.length_drop]
    omega
  next k hk := by
    obtain ⟨hnext, hrange⟩ := getElem_cut hpos hcount hk
    rw [hrange, (getElem_cut hpos hcount (Nat.lt_of_succ_lt hk)).2]
    rw [Nat.succ_mul] at hnext ⊢
    simp only [ByteRange.of, List.length_take, List.length_drop]
    omega
  whole := flatMap_cut hcount

end Ranges

/-- A value is refused as the size of a chunk, whatever the bytes. -/
theorem ChunkSize.ofSize_of_refused {value : Value}
    (h : checkValue value = .error (.invalid refusal)) (data : Bytes) :
    Ranges.ofSize data value = .error (.invalid refusal) := by
  rw [Ranges.ofSize, h]
  rfl

theorem ChunkSize.check_of_not_multiple {size : Int} (h : ¬ (0 < size ∧ size % unit = 0)) :
    check size = .error (.invalid refusal) := by
  rw [check, if_pos]
  simp only [Bool.or_eq_true, decide_eq_true_eq, bne_iff_ne]
  omega

/-- Bytes are cut into chunks of every positive multiple of the unit, and any mix of calls gets them
in order until none is left, and nothing from then on. Every other number is refused as a size. -/
theorem Ranges.every_chunk_is_handed_out (data : Bytes) :
    (∀ chunkSize : Nat, 0 < chunkSize → chunkSize % ChunkSize.unit = 0 →
      ∃ ranges, Ranges.ofSize data (.int chunkSize) = .ok ranges ∧
        Partition chunkSize data ranges.pending ∧
        ∀ calls, ∃ left, ranges.handOut calls =
            (calls.mapIdx fun k call => call.handout data.length ranges.pending[k]?, left) ∧
          left.pending = ranges.pending.drop calls.length ∧
          (left.pending.length = 0 → ∀ later,
            left.handOut later = (later.map (Call.handout data.length none), left))) ∧
    (∀ size : Int, ¬ (0 < size ∧ size % ChunkSize.unit = 0) →
      Ranges.ofSize data (.int size) = .error (.invalid ChunkSize.refusal)) ∧
    (∀ size : Bool, Ranges.ofSize data (.bool size) = .error (.invalid ChunkSize.refusal)) ∧
    ∀ size : Double, ChunkSize.isAcceptable size = false →
      Ranges.ofSize data (.real size) = .error (.invalid ChunkSize.refusal) := by
  refine ⟨fun chunkSize hpos hunit => ?_, fun size hsize => ?_, fun size => rfl,
    fun size hsize => ?_⟩
  · have hcheck : ChunkSize.check chunkSize = .ok chunkSize :=
      ChunkSize.check_eq_ok_iff.mpr ⟨by omega, by exact_mod_cast hunit, rfl⟩
    have hcount : data.length ≤ (data.length / chunkSize + 1) * chunkSize :=
      ((Nat.div_lt_iff_lt_mul hpos).mp (Nat.lt_succ_self _)).le
    refine ⟨_, ofSize_int hcheck data, partition_cut hpos hcount, fun calls => ?_⟩
    refine ⟨_, handOut_eq _ calls, rfl, fun hexhausted later => ?_⟩
    exact handOut_of_exhausted (List.length_eq_zero_iff.mp hexhausted) later
  · apply ChunkSize.ofSize_of_refused
    rw [ChunkSize.checkValue, ChunkSize.check_of_not_multiple hsize]
    rfl
  · apply ChunkSize.ofSize_of_refused
    rw [ChunkSize.checkValue, hsize]
    rfl

/-- One chunk of 320 KiB and two bytes, which are taken by both calls. -/
theorem Ranges.two_chunks_are_handed_out :
    ∃ ranges,
      Ranges.ofSize (List.replicate 327680 1 ++ [2, 3]) (.int 327680) = .ok ranges ∧
        (ranges.handOut [.popFront, .next, .popFront]).1 =
          [.parts (some ([("Content-Length", .text "327680"),
              ("Content-Range", .text "bytes 0-327679/327682")], List.replicate 327680 1)),
            .range (some { start := 327680, stop := 327681, data := [2, 3] }), .parts none] ∧
        Ranges.ofSize (List.replicate 327680 1 ++ [2, 3]) (.int 327679) =
          .error (.invalid ChunkSize.refusal) := by
  -- The bytes are kept under a name, as no step may go through them one by one.
  obtain ⟨data, hdata⟩ : ∃ data : Bytes, data = List.replicate 327680 1 ++ [2, 3] := ⟨_, rfl⟩
  have hlength : data.length = 327682 := by
    rw [hdata, List.length_append, List.length_replicate]
    rfl
  have hfirst : data.take 327680 = List.replicate 327680 1 := by
    rw [hdata, List.take_left' List.length_replicate]
  have hsecond : data.drop 327680 = [2, 3] := by
    rw [hdata, List.drop_left' List.length_replicate]
  rw [← hdata]
  obtain ⟨hchunks, hrefused, -, -⟩ := every_chunk_is_handed_out data
  obtain ⟨ranges, hranges, hpartition, hcalls⟩ := hchunks 327680 (by decide) (by decide)
  obtain ⟨left, hleft, -, -⟩ := hcalls [.popFront, .next, .popFront]
  refine ⟨ranges, hranges, ?_, hrefused 327679 (by decide)⟩
  have hcheck : ChunkSize.check 327680 = .ok 327680 := rfl
  have hcut := Except.ok.inj (hranges.symm.trans (ofSize_int hcheck data))
  have hzero : ranges.pending[0]? =
      some { start := 0, stop := 327679, data := List.replicate 327680 1 } := by
    rw [hcut, getElem?_cut (by omega) (by omega), Nat.zero_mul, List.drop_zero, hfirst,
      ByteRange.of, List.length_replicate]
    rfl
  have hone : ranges.pending[1]? = some { start := 327680, stop := 327681, data := [2, 3] } := by
    rw [hcut, getElem?_cut (by omega) (by omega), Nat.one_mul, hsecond]
    rfl
  have hnone : ranges.pending[2]? = none := by
    rw [List.getElem?_eq_none_iff, hpartition.count, hlength]
  rw [hleft, hlength]
  simp only [List.mapIdx_cons, List.mapIdx_nil, Nat.zero_add, Nat.reduceAdd, hzero, hone, hnone]
  rfl

end OAuthClient
