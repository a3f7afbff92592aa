import OAuthClient.Proofs.Transcript
import OAuthClient.Upload.Session

/-! # Runs of an upload session

What any sequence of operations on a session sends: range after range, each with
the same request until an answer arrives. A range leaves the session before it
is sent, and nothing that becomes of it brings it back.
-/

namespace OAuthClient

theorem World.report_sends (count : Int) (world : World) :
    world.Sends ((report count).perform world).2 [] :=
  ⟨by simp [report], by simp [report]⟩

/-- Whether the service took a range. -/
def Reply.IsAccepted (reply : Reply) : Prop :=
  ∃ answer, reply = .response answer ∧ answer.status ∈ [200, 201, 202]

namespace UploadSession

/-- The request that sends a range. -/
def putRequest (session : UploadSession) (range : ByteRange) : Request where
  method := "PUT"
  url := session.uploadUrl
  headers := range.headers session.ranges.size
  payload := .bytes range.data
  timeout := session.client.timeout

/-- The session with other ranges left. -/
def withPending (session : UploadSession) (pending : List ByteRange) : UploadSession :=
  { session with ranges := { session.ranges with pending } }

end UploadSession

/-- A range that left a session, with the replies to the requests that sent it. -/
structure Shipment where
  range : ByteRange
  replies : List Reply

namespace Shipment

/-- What passes when a range is sent. -/
def entries (session : UploadSession) (shipment : Shipment) : List (Request × Reply) :=
  shipment.replies.map fun reply => (session.putRequest shipment.range, reply)

theorem fst_of_mem_entries {session : UploadSession} {shipment : Shipment}
    {entry : Request × Reply} (h : entry ∈ shipment.entries session) :
    entry.1 = session.putRequest shipment.range ∧ entry.2 ∈ shipment.replies := by
  obtain ⟨reply, hreply, rfl⟩ := List.mem_map.mp h
  exact ⟨rfl, hreply⟩

@[simp] theorem map_snd_entries (session : UploadSession) (shipment : Shipment) :
    (shipment.entries session).map Prod.snd = shipment.replies := by
  rw [entries, List.map_map]
  exact List.map_id _

end Shipment

/-- The second transfer arises from the first one by sending some ranges. -/
structure Transfer.Ships (before after : Transfer) (shipped : List Shipment) : Prop where
  pending : before.session.ranges.pending =
    shipped.map Shipment.range ++ after.session.ranges.pending
  session : after.session = before.session.withPending after.session.ranges.pending
  sends : ∃ requests, before.world.Sends after.world requests
  transcript : before.world.transcript after.world =
    shipped.flatMap (Shipment.entries before.session)
  repeated : ∀ shipment ∈ shipped, ∀ reply ∈ shipment.replies.dropLast, ¬ reply.IsAccepted
  counted : ∀ shipment ∈ shipped, shipment.replies ≠ [] ↔ before.session.client.IsCounted

namespace Transfer

variable {before middle after : Transfer} {first second shipped : List Shipment}

namespace Ships

/-- Nothing is sent. -/
theorem silent (hsession : after.session = before.session)
    (hsends : before.world.Sends after.world []) : before.Ships after [] := by
  refine ⟨?_, ?_, ⟨[], hsends⟩, hsends.transcript_eq, by rintro _ ⟨⟩, by rintro _ ⟨⟩⟩
  · rw [hsession]
    rfl
  · rw [hsession]
    rfl

theorem refl (transfer : Transfer) : transfer.Ships transfer [] :=
  silent rfl (World.Sends.refl _)

theorem entries_eq (h : before.Ships middle first) :
    Shipment.entries middle.session = Shipment.entries before.session := by
  rw [h.session]
  rfl

theorem trans (hfirst : before.Ships middle first) (hsecond : middle.Ships after second) :
    before.Ships after (first ++ second) := by
  obtain ⟨requests, hsends⟩ := hfirst.sends
  obtain ⟨later, hlater⟩ := hsecond.sends
  refine ⟨?_, ?_, ⟨_, hsends.trans hlater⟩, ?_, ?_, ?_⟩
  · rw [hfirst.pending, hsecond.pending, List.map_append, List.append_assoc]
  · have hsession := hsecond.session
    rw [hfirst.session] at hsession
    exact hsession
  · rw [hsends.transcript_trans hlater, hfirst.transcript, hsecond.transcript, hfirst.entries_eq,
      List.flatMap_append]
  · intro shipment hshipment
    rcases List.mem_append.mp hshipment with h | h
    · exact hfirst.repeated shipment h
    · exact hsecond.repeated shipment h
  · intro shipment hshipment
    rcases List.mem_append.mp hshipment with h | h
    · exact hfirst.counted shipment h
    · have hcounted := hsecond.counted shipment h
      rw [hfirst.session] at hcounted
      exact hcounted

theorem exists_range (h : before.Ships after shipped) {entry : Request × Reply}
    (hentry : entry ∈ before.world.transcript after.world) :
    ∃ range, entry.1 = before.session.putRequest range := by
  rw [h.transcript, List.mem_flatMap] at hentry
  obtain ⟨shipment, _, hentry⟩ := hentry
  exact ⟨shipment.range, (Shipment.fst_of_mem_entries hentry).1⟩

end Ships

@[simp] theorem inWorld_perform {α : Type} (action : Action World α) (transfer : Transfer) :
    (inWorld action).perform transfer =
      ((action.perform transfer.world).1,
        { transfer with world := (action.perform transfer.world).2 }) := rfl

theorem report_ships (count : Int) (transfer : Transfer) :
    transfer.Ships ((inWorld (World.report count)).perform transfer).2 [] :=
  Ships.silent rfl (World.report_sends count transfer.world)

/-- The range that is to be sent next leaves the session first. -/
theorem takeRange_perform (transfer : Transfer) :
    takeRange.perform transfer =
      match transfer.session.ranges.pending with
      | [] => (.error .exhausted, transfer)
      | range :: rest =>
          (.ok range, { transfer with session := transfer.session.withPending rest }) := by
  rw [takeRange, Action.perform_get_bind, Ranges.next?]
  cases transfer.session.ranges.pending <;> rfl

/-- A range that is delivered. -/
theorem ships_of_delivers {range : ByteRange} {rest : List ByteRange} {attempts : Nat}
    {outcome : Except Failure Response} {world : World}
    (hpending : before.session.ranges.pending = range :: rest)
    (hcounted : 0 < attempts ↔ before.session.client.IsCounted)
    (hdelivers : before.world.Delivers world (before.session.putRequest range) attempts outcome) :
    before.Ships { session := before.session.withPending rest, world }
      [{ range, replies := (List.range attempts).map before.world.replyAt }] := by
  refine ⟨hpending, rfl, ⟨_, hdelivers.sends⟩, ?_, ?_, ?_⟩
  · rw [hdelivers.transcript_eq, List.flatMap_singleton, Shipment.entries, List.map_map]
    rfl
  · intro shipment hshipment reply hreply
    rw [List.mem_singleton.mp hshipment, ← List.map_dropLast] at hreply
    obtain ⟨index, hindex, rfl⟩ := List.mem_map.mp hreply
    obtain ⟨fault, reason, hfault⟩ := hdelivers.repeated_of_mem hindex
    rintro ⟨answer, hanswer, _⟩
    rw [hanswer] at hfault
    cases hfault
  · intro shipment hshipment
    rw [List.mem_singleton.mp hshipment, ← hcounted, ← List.length_pos_iff, List.length_map,
      List.length_range]

/-- The next range leaves the session before it is sent, whatever becomes of its request. -/
theorem next_perform {range : ByteRange} {rest : List ByteRange}
    (h : before.session.ranges.pending = range :: rest) :
    next.perform before =
      (((before.session.client.put before.session.uploadUrl range.data
          (range.headers before.session.ranges.size)).perform before.world).1 >>=
        (before.session.withPending rest).chunkResult range,
      { session := before.session.withPending rest
        world := ((before.session.client.put before.session.uploadUrl range.data
          (range.headers before.session.ranges.size)).perform before.world).2 }) := by
  rw [next, Action.perform_bind, takeRange_perform, h]
  dsimp only
  rw [Action.perform_get_bind, Action.perform_bind, inWorld_perform]
  dsimp only [UploadSession.withPending]
  rcases (before.session.client.put before.session.uploadUrl range.data
    (range.headers before.session.ranges.size)).perform before.world with
    ⟨failure | response, world⟩
  · rfl
  · exact Action.perform_ofExcept _ _

/-- Sending the next range delivers a request that tells which one it is. -/
theorem next_delivers {range : ByteRange} {rest : List ByteRange}
    {outcome : Except Failure ChunkResult}
    (hpending : before.session.ranges.pending = range :: rest)
    (h : next.perform before = (outcome, after)) :
    ∃ attempts answered, (0 < attempts ↔ before.session.client.IsCounted) ∧
      before.world.Delivers after.world (before.session.putRequest range) attempts answered ∧
      outcome = answered >>= (before.session.withPending rest).chunkResult range ∧
      after.session = before.session.withPending rest := by
  rw [next_perform hpending] at h
  obtain ⟨rfl, rfl⟩ := Prod.mk.inj h
  obtain ⟨attempts, hcounted, hdelivers⟩ := HttpClient.send_delivers (Prod.eta _).symm
  exact ⟨attempts, _, hcounted, hdelivers, rfl, rfl⟩

/-- Sending the next range sends that at most, and it leaves the session in any case. -/
theorem next_ships {outcome : Except Failure ChunkResult}
    (h : next.perform before = (outcome, after)) : ∃ shipped, before.Ships after shipped := by
  cases hpending : before.session.ranges.pending with
  | nil =>
      rw [next, Action.perform_bind, takeRange_perform, hpending] at h
      obtain ⟨rfl, rfl⟩ := Prod.mk.inj h
      exact ⟨[], Ships.refl before⟩
  | cons range rest =>
      obtain ⟨attempts, answered, hcounted, hdelivers, rfl, hsession⟩ := next_delivers hpending h
      have hships := ships_of_delivers hpending hcounted hdelivers
      rw [← hsession] at hships
      exact ⟨_, hships⟩

/-- A range that was sent is reported, and the next one follows unless the file is complete. -/
theorem sendRanges_succ_perform (count : Nat) (last : Option ChunkResult) (transfer : Transfer) :
    (sendRanges (count + 1) last).perform transfer =
      match next.perform transfer with
      | (.error failure, reached) => (.error failure, reached)
      | (.ok result, reached) =>
          if result.isComplete then
            (.ok (some result),
              ((inWorld (World.report result.range.contentLength)).perform reached).2)
          else (sendRanges count (some result)).perform
            ((inWorld (World.report result.range.contentLength)).perform reached).2 := by
  rw [sendRanges, Action.perform_bind]
  split
  next result reached heq =>
    rw [heq, Action.perform_bind]
    dsimp only [inWorld_perform, World.report, Action.perform_modify]
    split <;> rfl
  next failure reached heq => rw [heq]

theorem sendRanges_ships {count : Nat} {last : Option ChunkResult}
    {outcome : Except Failure (Option ChunkResult)}
    (h : (sendRanges count last).perform before = (outcome, after)) :
    ∃ shipped, before.Ships after shipped := by
  induction count generalizing last before with
  | zero =>
      obtain ⟨rfl, rfl⟩ := Prod.mk.inj h
      exact ⟨[], Ships.refl before⟩
  | succ count ih =>
      rw [sendRanges_succ_perform] at h
      rcases hnext : next.perform before with ⟨failure | result, reached⟩ <;> rw [hnext] at h
      · obtain ⟨shipped, hships⟩ := next_ships hnext
        obtain ⟨rfl, rfl⟩ := Prod.mk.inj h
        exact ⟨shipped, hships⟩
      · obtain ⟨shipped, hships⟩ := next_ships hnext
        have hreport := hships.trans (report_ships result.range.contentLength reached)
        dsimp only at h
        split at h
        next =>
          obtain ⟨rfl, rfl⟩ := Prod.mk.inj h
          exact ⟨_, hreport⟩
        next =>
          obtain ⟨later, hlater⟩ := ih h
          exact ⟨_, hreport.trans hlater⟩

/-- The file that the last result reports. -/
def finished : Option ChunkResult → Except Failure (Option DriveItem)
  | some result => if result.isComplete then .ok result.item else .error upload.unfinished
  | none => .error upload.unfinished

theorem upload_perform (transfer : Transfer) :
    upload.perform transfer =
      (((sendRanges transfer.session.ranges.pending.length none).perform transfer).1 >>= finished,
        ((sendRanges transfer.session.ranges.pending.length none).perform transfer).2) := by
  rw [upload, Action.perform_get_bind, Action.perform_bind]
  rcases (sendRanges transfer.session.ranges.pending.length none).perform transfer with
    ⟨failure | last, reached⟩
  · rfl
  · cases last with
    | none => rfl
    | some result =>
        change _ = (if result.isComplete then _ else _, _)
        dsimp only
        split <;> rfl

theorem upload_ships {outcome : Except Failure (Option DriveItem)}
    (h : upload.perform before = (outcome, after)) : ∃ shipped, before.Ships after shipped := by
  rw [upload_perform] at h
  obtain ⟨_, rfl⟩ := Prod.mk.inj h
  exact sendRanges_ships (Prod.eta _).symm

end Transfer

/-- What is done with a session. -/
inductive UploadStep where
  /-- The next range is sent. -/
  | next
  /-- All ranges that are left are sent. -/
  | upload

namespace Transfer

/-- The transfer after a step, whether it succeeds or not. -/
def after (transfer : Transfer) : UploadStep → Transfer
  | .next => (next.perform transfer).2
  | .upload => (upload.perform transfer).2

/-- The transfer after some steps. -/
def run (transfer : Transfer) (steps : List UploadStep) : Transfer := steps.foldl after transfer

theorem after_ships (transfer : Transfer) (step : UploadStep) :
    ∃ shipped, transfer.Ships (transfer.after step) shipped := by
  cases step with
  | next => exact next_ships rfl
  | upload => exact upload_ships rfl

/-- A run sends ranges one after the other. -/
theorem run_ships (transfer : Transfer) (steps : List UploadStep) :
    ∃ shipped, transfer.Ships (transfer.run steps) shipped := by
  induction steps generalizing transfer with
  | nil => exact ⟨[], Ships.refl transfer⟩
  | cons step steps ih =>
      obtain ⟨first, hfirst⟩ := after_ships transfer step
      obtain ⟨later, hlater⟩ := ih (transfer.after step)
      exact ⟨first ++ later, hfirst.trans hlater⟩

end Transfer

end OAuthClient
