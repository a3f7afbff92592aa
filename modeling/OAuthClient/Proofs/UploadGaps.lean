import OAuthClient.Proofs.RangeTiling
import OAuthClient.Proofs.UploadRuns

/-! # Gaps in an upload

A session has no gap if everything in front of a range was accepted before that
range was sent. Since a range leaves the session before it is sent, this holds
of exactly the runs in which no other range follows one that was not accepted;
and a range that was sent is never among those that are left.
-/

namespace OAuthClient

/-- Where an element of a joined list comes from. -/
theorem exists_split_of_flatMap_eq {α β : Type} {f : α → List β} {list : List α}
    {earlier later : List β} {b : β} (h : list.flatMap f = earlier ++ b :: later) :
    ∃ before a after front back, list = before ++ a :: after ∧ f a = front ++ b :: back ∧
      earlier = before.flatMap f ++ front ∧ later = back ++ after.flatMap f := by
  induction list generalizing earlier with
  | nil => simp at h
  | cons head rest ih =>
      rw [List.flatMap_cons, List.append_eq_append_iff] at h
      rcases h with ⟨further, rfl, hrest⟩ | ⟨tail, hhead, hlater⟩
      · obtain ⟨before, a, after, front, back, rfl, hsplit, rfl, rfl⟩ := ih hrest
        exact ⟨head :: before, a, after, front, back, rfl, hsplit, by simp, rfl⟩
      · cases tail with
        | nil =>
            have hrest : rest.flatMap f = [] ++ b :: later := hlater.symm
            obtain ⟨before, a, after, front, back, rfl, hsplit, hnil, rfl⟩ := ih hrest
            refine ⟨head :: before, a, after, front, back, rfl, hsplit, ?_, rfl⟩
            rw [List.flatMap_cons, hhead, List.append_nil, List.append_assoc, ← hnil,
              List.append_nil]
        | cons first tail =>
            obtain ⟨rfl, rfl⟩ := List.cons.inj hlater
            exact ⟨[], head, rest, earlier, tail, rfl, hhead, rfl, rfl⟩

namespace UploadSession

/-- Whether a range was sent only after every position in front of it had been accepted. -/
def HasNoGap (session : UploadSession) (log : List (Request × Reply)) : Prop :=
  ∀ earlier entry later, log = earlier ++ entry :: later →
    ∀ range ∈ session.ranges.pending, entry.1 = session.putRequest range →
      ∀ position, 0 ≤ position → position < range.start →
        ∃ sent ∈ session.ranges.pending, sent.Contains position ∧
          ∃ reply, reply.IsAccepted ∧ (session.putRequest sent, reply) ∈ earlier

/-- Whether a request was followed by a different one only if it was accepted. -/
def ProceedsWhenAccepted (log : List (Request × Reply)) : Prop :=
  log.IsChain fun entry next => entry.1 = next.1 ∨ entry.2.IsAccepted

/-- The request that sends a range tells which one it is. -/
theorem eq_of_putRequest_eq {session : UploadSession} {range other : ByteRange}
    (htiling : Consecutive 0 session.ranges.pending) (hrange : range ∈ session.ranges.pending)
    (hother : other ∈ session.ranges.pending)
    (h : session.putRequest range = session.putRequest other) : range = other := by
  have hheaders : range.headers session.ranges.size = other.headers session.ranges.size :=
    congrArg Request.headers h
  have hplace : range.contentRange session.ranges.size =
      other.contentRange session.ranges.size := by
    simp only [ByteRange.headers, List.cons.injEq, Prod.mk.injEq, Value.text.injEq] at hheaders
    exact hheaders.2.1.2
  exact htiling.eq_of_start_eq hrange hother (ByteRange.start_eq_of_contentRange_eq
    (htiling.first_le_start hrange) (htiling.first_le_start hother) hplace)

end UploadSession

namespace Transfer.Ships

open UploadSession

variable {before after : Transfer} {shipped earlier later : List Shipment}
  {shipment other : Shipment}

theorem range_mem (h : before.Ships after shipped) (hshipment : shipment ∈ shipped) :
    shipment.range ∈ before.session.ranges.pending := by
  rw [h.pending]
  exact List.mem_append_left _ (List.mem_map_of_mem hshipment)

/-- A range leaves the session once. -/
theorem eq_of_range_eq (h : before.Ships after shipped)
    (htiling : Consecutive 0 before.session.ranges.pending) (hshipment : shipment ∈ shipped)
    (hother : other ∈ shipped) (hrange : shipment.range = other.range) : shipment = other := by
  have hnodup := htiling.nodup
  rw [h.pending] at hnodup
  exact List.inj_on_of_nodup_map hnodup.of_append_left hshipment hother hrange

theorem start_lt_start (h : before.Ships after (earlier ++ shipment :: later))
    (htiling : Consecutive 0 before.session.ranges.pending) (hother : other ∈ later) :
    shipment.range.start < other.range.start := by
  rw [h.pending, List.map_append, List.map_cons, List.append_assoc, List.cons_append] at htiling
  exact htiling.start_lt_start (List.mem_append_left _ (List.mem_map_of_mem hother))

/-- Where a request that passed comes from. -/
theorem exists_shipment (h : before.Ships after shipped)
    (htiling : Consecutive 0 before.session.ranges.pending) {range : ByteRange} {reply : Reply}
    (hrange : range ∈ before.session.ranges.pending)
    (hentry : (before.session.putRequest range, reply) ∈
      before.world.transcript after.world) :
    ∃ shipment ∈ shipped, shipment.range = range ∧ reply ∈ shipment.replies := by
  rw [h.transcript, List.mem_flatMap] at hentry
  obtain ⟨shipment, hshipment, hentry⟩ := hentry
  obtain ⟨hrequest, hreply⟩ := Shipment.fst_of_mem_entries hentry
  exact ⟨shipment, hshipment,
    (eq_of_putRequest_eq htiling hrange (h.range_mem hshipment) hrequest).symm, hreply⟩

/-- Whether every range that left the session before one that was sent was accepted. -/
def AllAcceptedBeforeNext (shipped : List Shipment) : Prop :=
  ∀ earlier shipment later, shipped = earlier ++ shipment :: later →
    (∃ next ∈ later, next.replies ≠ []) → ∃ reply ∈ shipment.replies, reply.IsAccepted

theorem hasNoGap_of_allAccepted (h : before.Ships after shipped)
    (htiling : Consecutive 0 before.session.ranges.pending)
    (haccepted : AllAcceptedBeforeNext shipped) :
    before.session.HasNoGap (before.world.transcript after.world) := by
  intro earlier entry later hlog range hrange hrequest position hfirst hposition
  rw [h.transcript] at hlog
  obtain ⟨front, shipment, rest, passed, following, rfl, hentries, rfl, rfl⟩ :=
    exists_split_of_flatMap_eq hlog
  have hmem : entry ∈ shipment.entries before.session := by
    rw [hentries]
    exact List.mem_append_right _ List.mem_cons_self
  obtain ⟨hfst, hreply⟩ := Shipment.fst_of_mem_entries hmem
  have hshipment : shipment ∈ front ++ shipment :: rest :=
    List.mem_append_right _ List.mem_cons_self
  obtain rfl :=
    eq_of_putRequest_eq htiling hrange (h.range_mem hshipment) (hrequest.symm.trans hfst)
  -- The position lies in a range that left the session before this one.
  have hcover := htiling
  rw [h.pending, List.map_append, List.map_cons, List.append_assoc, List.cons_append] at hcover
  obtain ⟨sent, hsent, hcontains⟩ := hcover.covers hfirst hposition
  obtain ⟨source, hsource, rfl⟩ := List.mem_map.mp hsent
  obtain ⟨start, middle, rfl⟩ := List.append_of_mem hsource
  obtain ⟨reply, hreplied, hok⟩ := haccepted start source (middle ++ shipment :: rest) (by simp)
    ⟨shipment, List.mem_append_right _ List.mem_cons_self, List.ne_nil_of_mem hreply⟩
  refine ⟨source.range, h.range_mem (List.mem_append_left _ hsource), hcontains, reply, hok, ?_⟩
  apply List.mem_append_left
  exact List.mem_flatMap.mpr ⟨source, hsource, List.mem_map_of_mem hreplied⟩

theorem allAccepted_of_hasNoGap (h : before.Ships after shipped)
    (htiling : Consecutive 0 before.session.ranges.pending)
    (hgap : before.session.HasNoGap (before.world.transcript after.world)) :
    AllAcceptedBeforeNext shipped := by
  rintro earlier shipment later rfl ⟨next, hnext, hreplies⟩
  obtain ⟨middle, rest, rfl⟩ := List.append_of_mem hnext
  obtain ⟨reply, replies, hcons⟩ := List.exists_cons_of_ne_nil hreplies
  have hlog : before.world.transcript after.world =
      (earlier ++ shipment :: middle).flatMap (Shipment.entries before.session) ++
        (before.session.putRequest next.range, reply) ::
          ((replies.map fun reply => (before.session.putRequest next.range, reply)) ++
            rest.flatMap (Shipment.entries before.session)) := by
    rw [h.transcript]
    simp [Shipment.entries, hcons]
  have hshipment : shipment ∈ earlier ++ shipment :: (middle ++ next :: rest) :=
    List.mem_append_right _ List.mem_cons_self
  have hmem : next ∈ earlier ++ shipment :: (middle ++ next :: rest) := by simp
  -- A later range was sent, so the first position of this one was accepted before.
  have hstart := h.range_mem hshipment
  obtain ⟨sent, hsent, hcontains, accepted, hok, hearlier⟩ :=
    hgap _ _ _ hlog next.range (h.range_mem hmem) rfl shipment.range.start
      (htiling.first_le_start hstart) (h.start_lt_start htiling hnext)
  obtain rfl := htiling.eq_of_contains hstart hsent
    ⟨le_refl _, htiling.start_le_stop hstart⟩ hcontains
  have hpassed : (before.session.putRequest shipment.range, accepted) ∈
      before.world.transcript after.world := by
    rw [hlog]
    exact List.mem_append_left _ hearlier
  obtain ⟨source, hsource, hrange, hreply⟩ := h.exists_shipment htiling hstart hpassed
  obtain rfl := h.eq_of_range_eq htiling hsource hshipment hrange
  exact ⟨accepted, hreply, hok⟩

/-- Only the last request that sends a range can be accepted. -/
theorem accepted_of_last (h : before.Ships after shipped) (hshipment : shipment ∈ shipped)
    {front : List (Request × Reply)} {entry : Request × Reply}
    (hlast : shipment.entries before.session = front ++ [entry])
    (haccepted : ∃ reply ∈ shipment.replies, reply.IsAccepted) : entry.2.IsAccepted := by
  have hreplies : shipment.replies = front.map Prod.snd ++ [entry.2] := by
    rw [← Shipment.map_snd_entries before.session, hlast, List.map_append]
    rfl
  obtain ⟨reply, hreply, hok⟩ := haccepted
  have hrepeated := h.repeated shipment hshipment reply
  rw [hreplies, List.dropLast_concat] at hrepeated
  rw [hreplies] at hreply
  rcases List.mem_append.mp hreply with hfront | hend
  · exact absurd hok (hrepeated hfront)
  · rwa [← List.mem_singleton.mp hend]

theorem proceeds_of_allAccepted (h : before.Ships after shipped)
    (haccepted : AllAcceptedBeforeNext shipped) :
    ProceedsWhenAccepted (before.world.transcript after.world) := by
  rw [ProceedsWhenAccepted, List.isChain_iff_forall_rel_of_append_cons_cons]
  intro entry next earlier later hlog
  rw [h.transcript] at hlog
  have hnext : shipped.flatMap (Shipment.entries before.session) =
      (earlier ++ [entry]) ++ next :: later := by rw [hlog]; simp
  obtain ⟨front, shipment, rest, passed, following, rfl, hentries, hearlier, _⟩ :=
    exists_split_of_flatMap_eq hnext
  have hmem : next ∈ shipment.entries before.session := by
    rw [hentries]
    exact List.mem_append_right _ List.mem_cons_self
  rcases List.eq_nil_or_concat passed with rfl | ⟨prior, last, rfl⟩
  · -- The request is the first for its range, so the one before it is the last for another.
    rw [List.append_nil] at hearlier
    obtain ⟨start, source, middle, begun, rest', rfl, hsource, _, hempty⟩ :=
      exists_split_of_flatMap_eq hearlier.symm
    obtain ⟨rfl, _⟩ := List.append_eq_nil_iff.mp hempty.symm
    right
    refine h.accepted_of_last (by simp) hsource ?_
    refine haccepted start source (middle ++ shipment :: rest) (by simp)
      ⟨shipment, List.mem_append_right _ List.mem_cons_self, ?_⟩
    exact List.ne_nil_of_mem (Shipment.fst_of_mem_entries hmem).2
  · left
    rw [List.concat_eq_append, ← List.append_assoc] at hearlier
    obtain rfl : entry = last := by
      have hend := (List.append_inj' hearlier rfl).2
      exact (List.cons.inj hend).1
    have hentry : entry ∈ shipment.entries before.session := by
      rw [hentries]
      simp
    rw [(Shipment.fst_of_mem_entries hentry).1, (Shipment.fst_of_mem_entries hmem).1]

theorem allAccepted_of_proceeds (h : before.Ships after shipped)
    (htiling : Consecutive 0 before.session.ranges.pending)
    (hproceeds : ProceedsWhenAccepted (before.world.transcript after.world)) :
    AllAcceptedBeforeNext shipped := by
  rintro earlier shipment later rfl ⟨next, hnext, hreplies⟩
  have hshipment : shipment ∈ earlier ++ shipment :: later :=
    List.mem_append_right _ List.mem_cons_self
  -- Either every range that leaves the session is sent or none is.
  have hlater : ∀ other ∈ later, other.replies ≠ [] := by
    have hcounted := (h.counted next (by simp [hnext])).mp hreplies
    exact fun other hother => (h.counted other (by simp [hother])).mpr hcounted
  have hsent : shipment.replies ≠ [] :=
    (h.counted shipment hshipment).mpr ((h.counted next (by simp [hnext])).mp hreplies)
  cases later with
  | nil => cases hnext
  | cons second later =>
      obtain ⟨replies, last, hlast⟩ := (List.eq_nil_or_concat shipment.replies).resolve_left hsent
      obtain ⟨first, others, hfirst⟩ :=
        List.exists_cons_of_ne_nil (hlater second List.mem_cons_self)
      have hlog : before.world.transcript after.world =
          (earlier.flatMap (Shipment.entries before.session) ++
            replies.map fun reply => (before.session.putRequest shipment.range, reply)) ++
          (before.session.putRequest shipment.range, last) ::
            (before.session.putRequest second.range, first) ::
              ((others.map fun reply => (before.session.putRequest second.range, reply)) ++
                later.flatMap (Shipment.entries before.session)) := by
        rw [h.transcript]
        simp [Shipment.entries, hlast, hfirst]
      rw [ProceedsWhenAccepted, List.isChain_iff_forall_rel_of_append_cons_cons] at hproceeds
      rcases hproceeds hlog with hsame | hok
      · have hsecond : second ∈ earlier ++ shipment :: second :: later := by simp
        have hrange := eq_of_putRequest_eq htiling (h.range_mem hshipment) (h.range_mem hsecond)
          hsame
        have hstart := h.start_lt_start htiling List.mem_cons_self
        rw [hrange] at hstart
        exact absurd hstart (lt_irrefl _)
      · refine ⟨last, ?_, hok⟩
        rw [hlast]
        simp

/-- A range that left the session is not left in it. -/
theorem range_not_mem (h : before.Ships after shipped)
    (htiling : Consecutive 0 before.session.ranges.pending) (hshipment : shipment ∈ shipped) :
    shipment.range ∉ after.session.ranges.pending := by
  have hnodup := htiling.nodup
  rw [h.pending] at hnodup
  intro hleft
  exact (List.nodup_append'.mp hnodup).2.2 (List.mem_map_of_mem hshipment) hleft

end Transfer.Ships

namespace UploadSession

theorem ofBytes_consecutive {url chunkSize expiration : Value} {data : Bytes} {client : HttpClient}
    {session : UploadSession}
    (h : UploadSession.ofBytes url data chunkSize client expiration = .ok session) :
    Consecutive 0 session.ranges.pending := by
  obtain ⟨ranges, hranges, h⟩ := Failure.of_bind_ok h
  cases h
  exact Ranges.ofSize_consecutive hranges

/-- A run on a session that uploads bytes has no gap exactly when a range is followed by another one
only if it was accepted. A range that was sent is never among those that are left. -/
theorem hasNoGap_iff_proceedsWhenAccepted {url chunkSize expiration : Value} {data : Bytes}
    {client : HttpClient} {session : UploadSession}
    (hopen : UploadSession.ofBytes url data chunkSize client expiration = .ok session)
    (world : World) (steps : List UploadStep) :
    (session.HasNoGap (world.transcript (Transfer.run { session, world } steps).world) ↔
      ProceedsWhenAccepted (world.transcript (Transfer.run { session, world } steps).world)) ∧
    ∀ range ∈ session.ranges.pending, ∀ reply, (session.putRequest range, reply) ∈
      world.transcript (Transfer.run { session, world } steps).world →
        range ∉ (Transfer.run { session, world } steps).session.ranges.pending := by
  have htiling := ofBytes_consecutive hopen
  obtain ⟨shipped, hships⟩ := Transfer.run_ships { session, world } steps
  refine ⟨⟨?_, ?_⟩, ?_⟩
  · intro hgap
    exact hships.proceeds_of_allAccepted (hships.allAccepted_of_hasNoGap htiling hgap)
  · intro hproceeds
    exact hships.hasNoGap_of_allAccepted htiling (hships.allAccepted_of_proceeds htiling hproceeds)
  · intro range hrange reply hentry
    obtain ⟨shipment, hshipment, rfl, _⟩ := hships.exists_shipment htiling hrange hentry
    exact hships.range_not_mem htiling hshipment

/-- A session that has two ranges left. -/
def ofTwo (size : Nat) (first second : ByteRange) : UploadSession where
  uploadUrl := .text "https://upload.example/session"
  ranges := { size, chunkSize := ChunkSize.unit, pending := [first, second] }
  client := .standard

/-- Zeros that make one chunk and one byte more. -/
def trialData : Bytes := List.replicate (ChunkSize.unit + 1) 0

theorem cut_trialData {n : Nat} (hpos : 0 < n) :
    Ranges.cut n 2 0 (List.replicate (n + 1) 0) =
      [⟨0, n - 1, List.replicate n 0⟩, ⟨n, n, [0]⟩] := by
  rw [Ranges.cut_succ_of_ne_nil n 1 0 (by simp), Ranges.cut_succ_of_ne_nil n 0 _ (by simp)]
  have hlength : (n : Int) + min (n : Int) 1 - 1 = n := by omega
  simpa [Ranges.cut, hlength] using Nat.succ_le_of_lt hpos

theorem ofBytes_trialData :
    UploadSession.ofBytes (.text "https://upload.example/session") trialData
        (.int ChunkSize.unit) .standard .null =
      .ok (ofTwo (ChunkSize.unit + 1) ⟨0, ChunkSize.unit - 1, List.replicate ChunkSize.unit 0⟩
        ⟨ChunkSize.unit, ChunkSize.unit, [0]⟩) := by
  have hlength : trialData.length = ChunkSize.unit + 1 := List.length_replicate
  have hcheck : ChunkSize.check ChunkSize.unit = .ok ChunkSize.unit := rfl
  have hcount : (ChunkSize.unit + 1) / ChunkSize.unit + 1 = 2 := by decide
  rw [UploadSession.ofBytes, Ranges.ofSize_int hcheck, hlength, hcount, trialData,
    cut_trialData (by decide)]
  rfl

/-- A service that refuses a range and then takes another. -/
def trialWorld : World where
  start := .whole 0
  now := .whole 0
  entropy := ⟨fun _ => 0, 0⟩
  replies := [.response ⟨500, ""⟩, .response ⟨202, ""⟩]

/-- After a range that was refused the next one is sent, whatever the two are. -/
theorem transcript_ofTwo (size : Nat) (first second : ByteRange) :
    trialWorld.transcript
        (Transfer.run ⟨ofTwo size first second, trialWorld⟩ [.next, .next]).world =
      [((ofTwo size first second).putRequest first, .response ⟨500, ""⟩),
        ((ofTwo size first second).putRequest second, .response ⟨202, ""⟩)] := rfl

theorem trial_refused_range_is_not_left :
    ⟨0, ChunkSize.unit - 1, List.replicate ChunkSize.unit 0⟩ ∉
      (Transfer.run ⟨ofTwo (ChunkSize.unit + 1)
        ⟨0, ChunkSize.unit - 1, List.replicate ChunkSize.unit 0⟩
        ⟨ChunkSize.unit, ChunkSize.unit, [0]⟩, trialWorld⟩
        [.next, .next]).session.ranges.pending := by
  refine (hasNoGap_iff_proceedsWhenAccepted ofBytes_trialData trialWorld [.next, .next]).2 _
    List.mem_cons_self (.response ⟨500, ""⟩) ?_
  rw [transcript_ofTwo]
  exact List.mem_cons_self

/-- A session that goes on after a range that was refused has a gap. -/
theorem refused_range_leaves_gap :
    ∃ session, UploadSession.ofBytes (.text "https://upload.example/session") trialData
        (.int ChunkSize.unit) .standard .null = .ok session ∧
      ¬ session.HasNoGap (trialWorld.transcript
        (Transfer.run { session, world := trialWorld } [.next, .next]).world) := by
  refine ⟨_, ofBytes_trialData, ?_⟩
  rw [transcript_ofTwo]
  intro hgap
  obtain ⟨sent, _, _, reply, ⟨answer, rfl, hstatus⟩, hsent⟩ :=
    hgap [_] _ [] rfl _ (List.mem_cons_of_mem _ List.mem_cons_self) rfl 0 (le_refl 0) (by decide)
  obtain ⟨_, hanswer⟩ := Prod.mk.inj (List.mem_singleton.mp hsent)
  obtain rfl := Reply.response.inj hanswer
  exact absurd hstatus (by decide)

end UploadSession

end OAuthClient
