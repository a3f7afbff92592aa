import OAuthClient.Proofs.DevicePolling
import OAuthClient.Proofs.Retries

/-! # The pace of polling

A device code says how many seconds are to pass between two polls. Whatever
counts as given is taken as it comes, so that a text of a zero and a fraction of
a second come to no pause at all. A clock that moves with the pauses only then
never reaches the end of the lifetime, and polling that is put off every time
goes on for ever. With a pause of a second at least it ends.
-/

namespace OAuthClient

/-! ### What is accepted as an interval -/

/-- The whole part of a number is at least one exactly when the number is. -/
theorem Number.one_le_truncate_iff {x : Double} {i : Int} (h : x.truncate? = some i) :
    1 ≤ i ↔ ∃ q, (Number.real x).toRat? = some q ∧ 1 ≤ q := by
  cases x with
  | nan => cases h
  | infinite negative => cases h
  | finite negative mantissa exponent =>
      have hden : 0 < (Double.toRatio mantissa exponent).2 :=
        @den_pos (.real (.finite negative mantissa exponent)) _ _ rfl
      rw [Double.truncate?] at h
      simp only [toRat?, fraction?, Double.toSignedRatio, Option.map_some, Option.some.injEq,
        exists_eq_left'] at h ⊢
      generalize Double.toRatio mantissa exponent = ratio at h hden ⊢
      obtain ⟨num, den⟩ := ratio
      dsimp only at h hden ⊢
      have hpos : (0 : ℚ) < den := by exact_mod_cast hden
      subst h
      rw [le_div_iff₀ hpos, one_mul]
      cases negative with
      | true =>
          have hsign : ¬ (den : Int) ≤ -(num : Int) := by omega
          simp only [if_true]
          have hfew := Int.natCast_nonneg (num / den)
          exact iff_of_false (by omega) fun hle => hsign (by exact_mod_cast hle)
      | false =>
          simp only [Bool.false_eq_true, if_false]
          rw [show (1 : Int) ≤ (num / den : Nat) ↔ 1 ≤ num / den by omega,
            Nat.le_div_iff_mul_le hden, Nat.one_mul]
          exact_mod_cast Iff.rfl

/-- Whether a value says a pace: what does not count as given is left to the default, and what is
given comes to a second at least. -/
def Value.SaysPace : Value → Prop
  | .null | .bool _ | .list _ | .object _ => True
  | .int i => i = 0 ∨ 1 ≤ i
  | .real x => x.isZero = true ∨ ∃ q, (Number.real x).toRat? = some q ∧ 1 ≤ q
  | .text s => s.isEmpty = true ∨ ∃ i, Text.readInteger s.toList = .ok i ∧ 1 ≤ i

theorem Value.saysPace_iff {value : Value} {interval : Int}
    (h : (value.orElse (.int DeviceCode.defaultInterval)).toInteger = .ok interval) :
    value.SaysPace ↔ 1 ≤ interval := by
  have hdefault {value : Value} (hvalue : value.isPresent = false)
      (h : (value.orElse (.int DeviceCode.defaultInterval)).toInteger = .ok interval) :
      1 ≤ interval := by
    rw [orElse, hvalue] at h
    cases h
    decide
  cases hpresent : value.isPresent with
  | false =>
      refine iff_of_true ?_ (hdefault hpresent h)
      cases value with
      | int i => exact .inl (by simpa [isPresent] using hpresent)
      | real x => exact .inl (by simpa [isPresent] using hpresent)
      | text s => exact .inl (by simpa [isPresent] using hpresent)
      | _ => trivial
  | true =>
      rw [orElse, if_pos hpresent] at h
      cases value with
      | null => cases hpresent
      | bool b =>
          obtain rfl : b = true := hpresent
          cases h
          exact iff_of_true trivial (le_refl 1)
      | int i =>
          obtain rfl : i = interval := Except.ok.inj h
          have hne : i ≠ 0 := by simpa [isPresent] using hpresent
          exact or_iff_right hne
      | real x =>
          have hne : ¬ x.isZero = true := by simpa [isPresent] using hpresent
          rw [SaysPace, or_iff_right hne]
          cases x with
          | nan => cases h
          | infinite negative => cases h
          | finite negative mantissa exponent =>
              cases h
              exact (Number.one_le_truncate_iff rfl).symm
      | text s =>
          have hne : ¬ s.isEmpty = true := by simpa [isPresent] using hpresent
          rw [SaysPace, or_iff_right hne]
          cases hread : Text.readInteger s.toList with
          | ok i =>
              simp only [toInteger, hread, Except.ok.injEq] at h
              simp [h]
          | error fault => simp [toInteger, hread] at h
      | list items => cases h
      | object members => cases h

/-! ### Rounds -/

theorem Credential.executeAfter_sends (credential : Credential) (interval : Int) (world : World) :
    ∃ requests, world.Sends ((credential.executeAfter interval).perform world).2 requests := by
  have hpause := World.afterPause_sends (.int interval) world
  rw [executeAfter_perform]
  split
  next =>
    rcases hexecute : credential.execute.perform (world.afterPause (.int interval)) with
      ⟨outcome, after⟩
    rcases execute_cases hexecute with ⟨failure, hform, -⟩ | ⟨fields, attempts, -, -, hdelivers⟩
    · exact ⟨_, hpause.trans (credential.form_isOffline.sends hform)⟩
    · exact ⟨_, hpause.trans hdelivers.sends⟩
  next => exact ⟨[], hpause⟩

namespace PollRound

/-- Whether a round is one in which a credential asks for a token after the pause. -/
def IsAskedBy (round : PollRound) (credential : Credential) : Prop :=
  (credential.executeAfter round.interval).perform round.before = (round.delivered, round.after)

/-- Rounds in which a credential asks for tokens send something or nothing, and go on with the
replies that are left. -/
theorem Lead.sends {start stop : World} {rounds : List PollRound} {credential : Credential}
    (hlead : Lead start rounds stop) (hasked : ∀ round ∈ rounds, round.IsAskedBy credential) :
    ∃ requests, start.Sends stop requests := by
  induction rounds generalizing start with
  | nil =>
      obtain rfl : start = stop := hlead
      exact ⟨[], World.Sends.refl start⟩
  | cons round rounds ih =>
      obtain ⟨rfl, hrest⟩ := hlead
      rw [List.forall_mem_cons] at hasked
      obtain ⟨later, hlater⟩ := ih hrest hasked.2
      obtain ⟨first, hfirst⟩ := credential.executeAfter_sends round.interval round.before
      rw [hasked.1] at hfirst
      exact ⟨_, hfirst.trans hlater⟩

end PollRound

namespace Context

variable {context : Context} {fields : Credential.Fields} {deadline : Number}

/-- A poll is a round of the credential. One that leaves the sign-in open changes nothing but the
world. -/
theorem pollOnce_asked (interval : Int) (context : Context) :
    ∃ round : PollRound, round.before = context.world ∧ round.interval = interval ∧
      round.IsAskedBy context.credential ∧
      ((pollOnce interval).perform context).2.world = round.after ∧
      ∀ answer, ((pollOnce interval).perform context).1 = .ok answer → answer.continues = true →
        ((pollOnce interval).perform context).2 = { context with world := round.after } := by
  rcases hexecute : (context.credential.executeAfter interval).perform context.world with
    ⟨delivered, world⟩
  refine ⟨⟨interval, context.world, delivered, world⟩, rfl, rfl, hexecute, ?_⟩
  rw [pollOnce_perform, hexecute]
  cases delivered with
  | error failure => exact ⟨rfl, by rintro _ ⟨⟩⟩
  | ok response =>
      dsimp only
      cases response.isOk with
      | false => exact ⟨rfl, fun _ _ _ => rfl⟩
      | true =>
          simp only [if_true]
          cases Token.ofAnswer response context.credential.config.logPii world.now with
          | error failure => exact ⟨rfl, by rintro _ ⟨⟩⟩
          | ok token =>
              refine ⟨rfl, ?_⟩
              rintro answer hanswer hcontinues
              cases hanswer
              cases hcontinues

/-- Polling is a sequence of rounds of the credential, in none of which the pause is shorter than in
the first one. -/
theorem pollFrom_rounds (deadline : Number) (count : Nat) (interval : Int) (context : Context) :
    ∃ rounds, PollRound.Lead context.world rounds
        ((pollFrom deadline count interval).run context).2.world ∧
      ∀ round ∈ rounds, round.IsAskedBy context.credential ∧ interval ≤ round.interval := by
  induction count generalizing interval context with
  | zero => exact ⟨[], rfl, by simp⟩
  | succ count ih =>
      obtain ⟨round, hbefore, hinterval, hasked, hworld, hsame⟩ := pollOnce_asked interval context
      have hlast : ∃ rounds, PollRound.Lead context.world rounds
            ((pollOnce interval).perform context).2.world ∧
          ∀ round ∈ rounds, round.IsAskedBy context.credential ∧ interval ≤ round.interval :=
        ⟨[round], ⟨hbefore, hworld.symm⟩, by simp [hasked, hinterval]⟩
      rw [pollFrom_succ]
      rcases hperform : (pollOnce interval).perform context with ⟨failure | answer, reached⟩ <;>
        rw [hperform] at hlast hworld hsame
      · exact hlast
      · dsimp only at hlast hworld hsame ⊢
        split
        next hmore =>
          obtain rfl := hsame answer rfl (Bool.and_eq_true _ _ ▸ hmore).1
          obtain ⟨rounds, hlead, hrounds⟩ :=
            ih (interval + answer.slowing) { context with world := round.after }
          have hslower : 0 ≤ answer.slowing := by
            rw [PollResponse.slowing]
            split <;> decide
          refine ⟨round :: rounds, ⟨hbefore, hlead⟩, ?_⟩
          rw [List.forall_mem_cons]
          refine ⟨⟨hasked, hinterval.ge⟩, fun other hother => ⟨(hrounds other hother).1, ?_⟩⟩
          have := (hrounds other hother).2
          omega
        next => exact hlast

end Context

/-! ### Polls that are put off -/

/-- Whether an answer says that the user has not signed in yet. -/
structure Response.IsPending (response : Response) : Prop where
  refused : response.isOk = false
  event : (PollResponse.ofResponse response).event = some .authorizationPending

namespace Credential

variable {credential : Credential} {fields : Fields} {world : World}

/-- A form that is answered at once is sent once. -/
theorem execute_of_answer {response : Response}
    (hform : credential.form.perform world = (.ok fields, world))
    (hcounted : credential.client.IsCounted) (hreply : world.replyAt 0 = .response response) :
    credential.execute.perform world =
      (.ok response, world.afterRequest (credential.tokenRequest fields)) := by
  rw [execute, Action.perform_bind_of_ok hform, post, asExecution, Action.perform_attempt_bind,
    HttpClient.postForm, HttpClient.send_of_answer hcounted hreply]
  rfl

/-- A client that cannot count its attempts fails before it sends anything. -/
theorem execute_of_not_isCounted (hform : credential.form.perform world = (.ok fields, world))
    (hcounted : ¬ credential.client.IsCounted) :
    ∃ failure, credential.execute.perform world = (.error failure, world) := by
  cases hlimit : credential.client.limit with
  | times count pos => exact absurd ⟨count, pos, hlimit⟩ hcounted
  | uncountable limit =>
      refine ⟨.wrongKind, ?_⟩
      rw [execute, Action.perform_bind_of_ok hform, post, asExecution,
        Action.perform_attempt_bind, HttpClient.postForm, HttpClient.send, hlimit]
      rfl

end Credential

namespace Context

variable {context : Context} {fields : Credential.Fields} {deadline : Number}

/-- Whether a credential fails whenever it is to ask for a token, before it sends anything. -/
def AsksNothing (credential : Credential) : Prop :=
  ∀ world, ∃ failure, credential.execute.perform world = (.error failure, world)

/-- A device code is redeemed with one form, or nothing is ever sent for it. -/
theorem holdsCode_or_asksNothing {code : Value}
    (hgrant : context.credential.grant = .deviceCode code)
    (hnull : context.credential.refreshToken = .null) :
    (context.credential.client.IsCounted ∧ ∃ fields, context.HoldsCode fields) ∨
      AsksNothing context.credential := by
  have hform (world : World) : context.credential.form.perform world =
      (context.credential.deviceCodeForm code, world) := by
    rw [Credential.form, hgrant, Action.perform_ofExcept]
  cases hfields : context.credential.deviceCodeForm code with
  | error failure =>
      refine .inr fun world => ⟨failure, ?_⟩
      rw [Credential.execute, Action.perform_bind, hform, hfields]
  | ok fields =>
      rw [hfields] at hform
      by_cases hcounted : context.credential.client.IsCounted
      · exact .inl ⟨hcounted, fields, hform, hnull⟩
      · exact .inr fun world => Credential.execute_of_not_isCounted (hform world) hcounted

/-- Whether nothing follows the next pause, because the timer refuses it or because a credential
asks nothing. -/
def EndsUnasked (context : Context) (interval : Int) : Prop :=
  ∃ failure, (context.credential.executeAfter interval).perform context.world =
    (.error failure, context.world.afterPause (.int interval))

theorem endsUnasked_of_refused {interval : Int} {failure : Failure}
    (h : context.world.timer.take (.int interval) = .error failure) :
    context.EndsUnasked interval := by
  refine ⟨failure, ?_⟩
  rw [Credential.executeAfter_perform, h]

theorem AsksNothing.endsUnasked (h : AsksNothing context.credential) (interval : Int) :
    context.EndsUnasked interval := by
  cases htake : context.world.timer.take (.int interval) with
  | error failure => exact endsUnasked_of_refused htake
  | ok seconds =>
      obtain ⟨failure, hexecute⟩ := h (context.world.afterPause (.int interval))
      refine ⟨failure, ?_⟩
      rw [Credential.executeAfter_perform, htake]
      exact hexecute

theorem EndsUnasked.sends {interval : Int} (h : context.EndsUnasked interval) (count : Nat) :
    context.world.Sends ((pollFrom deadline count interval).run context).2.world [] := by
  cases count with
  | zero => exact World.Sends.refl context.world
  | succ count =>
      obtain ⟨failure, hexecute⟩ := h
      rw [pollFrom_succ, pollOnce_perform, hexecute]
      exact World.afterPause_sends (.int interval) context.world

/-- The context after a pause and a request that is answered with an error. -/
def polled (context : Context) (interval : Int) (request : Request) : Context :=
  { context with world := (context.world.afterPause (.int interval)).afterRequest request }

theorem polled_sends (context : Context) (interval : Int) (request : Request) :
    context.world.Sends (context.polled interval request).world [request] :=
  (World.afterPause_sends (.int interval) context.world).trans (World.afterRequest_sends _ request)

theorem replies_polled (context : Context) (interval : Int) (request : Request) :
    (context.polled interval request).world.replies = context.world.replies.tail := by
  rw [(context.polled_sends interval request).replies, List.length_singleton, List.drop_one]

theorem HoldsCode.polled (h : context.HoldsCode fields) (interval : Int) (request : Request) :
    (context.polled interval request).HoldsCode fields :=
  ⟨h.form, h.refreshToken⟩

/-- The clock of a context, in whole seconds since its beginning. -/
def ShowsElapsed (context : Context) (seconds : Int) : Prop :=
  ∃ first : Int, context.world.start = .whole first ∧ context.world.now = .whole (first + seconds)

theorem ShowsElapsed.elapsed {seconds : Int} (h : context.ShowsElapsed seconds) :
    context.world.elapsed = .whole seconds := by
  obtain ⟨first, hfirst, hnow⟩ := h
  rw [World.elapsed_of_whole hfirst hnow, add_sub_cancel_left]

theorem ShowsElapsed.polled {seconds interval : Int} (h : context.ShowsElapsed seconds)
    {taken : Number} (htaken : context.world.timer.take (.int interval) = .ok taken)
    (request : Request) : (context.polled interval request).ShowsElapsed (seconds + interval) := by
  obtain ⟨first, hfirst, hnow⟩ := h
  refine ⟨first, ?_, ?_⟩
  · obtain ⟨_, hsame⟩ := context.world.exists_afterPause_eq (.int interval)
    rw [Context.polled, World.afterRequest, hsame]
    exact hfirst
  · rw [Context.polled, World.afterRequest, World.now_afterPause_of_take htaken hnow, add_assoc]

/-- A poll that is answered with an error that leaves the sign-in open is followed by another one
unless the deadline has come. -/
theorem pollFrom_of_pending {response : Response} (h : context.HoldsCode fields)
    (hcounted : context.credential.client.IsCounted)
    {rest : List Reply} (hreplies : context.world.replies = .response response :: rest)
    (hpending : response.IsPending) {seconds : Int} (hclock : context.ShowsElapsed seconds)
    {interval : Int} {taken : Number}
    (htaken : context.world.timer.take (.int interval) = .ok taken) (last : Int) (count : Nat) :
    let next := context.polled interval (context.credential.tokenRequest fields)
    ((pollFrom (.whole last) (count + 1) interval).run context).2 =
      if last ≤ seconds + interval then next
      else ((pollFrom (.whole last) count interval).run next).2 := by
  intro next
  have hpaused : (context.world.afterPause (.int interval)).replyAt 0 = .response response := by
    rw [(World.afterPause_sends (.int interval) context.world).replyAt, World.replyAt, hreplies]
    rfl
  have hanswer : (pollOnce interval).perform context =
      (.ok (.ofResponse response), next) := by
    rw [pollOnce_perform, Credential.executeAfter_perform, htaken]
    dsimp only
    rw [Credential.execute_of_answer (h.form _) hcounted hpaused]
    dsimp only
    rw [hpending.refused]
    rfl
  have hcontinues : (PollResponse.ofResponse response).continues = true := by
    rw [PollResponse.continues, hpending.event]
    rfl
  have hslowing : (PollResponse.ofResponse response).slowing = 0 := by
    rw [PollResponse.slowing, hpending.event]
    rfl
  have hreached : (Number.whole last).isAtMost next.world.elapsed =
      decide (last ≤ seconds + interval) := by
    rw [(hclock.polled htaken _).elapsed, Bool.eq_iff_iff, decide_eq_true_iff,
      Number.isAtMost_iff (Number.toRat?_whole _) (Number.toRat?_whole _)]
    exact_mod_cast Iff.rfl
  rw [pollFrom_succ, hanswer]
  dsimp only
  rw [hcontinues, hreached, hslowing, add_zero]
  by_cases hlast : last ≤ seconds + interval
  · simp [hlast]
  · simp [hlast]

/-- With a pause of a second at least, polling that is put off every time sends no more requests
than there are seconds until the deadline, or one. -/
theorem pollFrom_pending_le {answers : List Response}
    (hpending : ∀ answer ∈ answers, answer.IsPending) (h : context.HoldsCode fields)
    (hcounted : context.credential.client.IsCounted)
    (hreplies : context.world.replies = answers.map .response) {seconds last interval : Int}
    (hclock : context.ShowsElapsed seconds) (hinterval : 1 ≤ interval)
    (hfew : max 1 (last - seconds) ≤ answers.length) {count : Nat}
    (hcount : answers.length < count) :
    ∃ requests : List Request, (requests.length : Int) ≤ max 1 (last - seconds) ∧
      context.world.Sends ((pollFrom (.whole last) count interval).run context).2.world
        requests := by
  induction answers generalizing context seconds count with
  | nil => exact absurd ((le_max_left _ _).trans hfew) (by decide)
  | cons answer answers ih =>
      obtain ⟨count, rfl⟩ := Nat.exists_eq_succ_of_ne_zero (Nat.ne_zero_of_lt hcount)
      rw [List.forall_mem_cons] at hpending
      cases htaken : context.world.timer.take (.int interval) with
      | error failure =>
          exact ⟨[], by simp, (endsUnasked_of_refused htaken).sends _⟩
      | ok taken =>
          have hsends := context.polled_sends interval (context.credential.tokenRequest fields)
          have hstep := pollFrom_of_pending h hcounted hreplies hpending.1 hclock htaken last count
          dsimp only at hstep
          rw [Nat.succ_eq_add_one, hstep]
          split
          next => exact ⟨_, le_max_left _ _, hsends⟩
          next hbefore =>
            -- At least one of the seconds until the deadline has passed.
            have hrest := context.replies_polled interval (context.credential.tokenRequest fields)
            rw [hreplies, List.map_cons, List.tail_cons] at hrest
            rw [List.length_cons] at hfew hcount
            push_cast at hfew
            obtain ⟨requests, hlength, hlater⟩ := ih hpending.2 (h.polled interval _) hcounted
              hrest (hclock.polled htaken _) (by omega) (Nat.lt_of_succ_lt_succ hcount)
            refine ⟨_, ?_, hsends.trans hlater⟩
            rw [List.length_append, List.length_singleton]
            push_cast
            omega

/-- With no pause at all, polling that is put off every time before the deadline goes on as long as
it is answered. -/
theorem pollFrom_pending_all {answers : List Response}
    (hpending : ∀ answer ∈ answers, answer.IsPending) (h : context.HoldsCode fields)
    (hcounted : context.credential.client.IsCounted)
    (hreplies : context.world.replies = answers.map .response) {seconds last : Int}
    (hclock : context.ShowsElapsed seconds) (hbefore : seconds < last) {count : Nat}
    (hcount : answers.length < count) :
    ∃ requests : List Request, answers.length ≤ requests.length ∧
      context.world.Sends ((pollFrom (.whole last) count 0).run context).2.world requests := by
  induction answers generalizing context seconds count with
  | nil =>
      obtain ⟨rounds, hlead, hrounds⟩ := pollFrom_rounds (.whole last) count 0 context
      obtain ⟨requests, hsends⟩ := hlead.sends fun round hround => (hrounds round hround).1
      exact ⟨requests, Nat.zero_le _, hsends⟩
  | cons answer answers ih =>
      obtain ⟨count, rfl⟩ := Nat.exists_eq_succ_of_ne_zero (Nat.ne_zero_of_lt hcount)
      rw [List.forall_mem_cons] at hpending
      have htaken : context.world.timer.take (.int 0) = .ok (.whole 0) :=
        Timer.take_of_system rfl context.world.timer
      have hsends := context.polled_sends 0 (context.credential.tokenRequest fields)
      have hstep := pollFrom_of_pending h hcounted hreplies hpending.1 hclock htaken last count
      dsimp only at hstep
      rw [Nat.succ_eq_add_one, hstep, if_neg (by omega)]
      have hrest := context.replies_polled 0 (context.credential.tokenRequest fields)
      rw [hreplies, List.map_cons, List.tail_cons] at hrest
      obtain ⟨requests, hlength, hlater⟩ := ih hpending.2 (h.polled 0 _) hcounted hrest
        (hclock.polled htaken _) (by omega) (Nat.lt_of_succ_lt_succ hcount)
      refine ⟨_, ?_, hsends.trans hlater⟩
      rw [List.length_append, List.length_singleton, List.length_cons]
      omega

/-- A context whose service is ready to give the first ones of some answers. -/
def awaiting (context : Context) (answers : Nat → Response) (count : Nat) : Context :=
  { context with world := { context.world with
      replies := (List.range count).map fun index => .response (answers index) } }

/-- The requests that polling with a device code sends, each with the reply to it. -/
def pollTranscript (context : Context) (code : DeviceCode) : List (Request × Reply) :=
  context.world.transcript ((poll (some code) none).run context).2.world

end Context

namespace DeviceCode

open Context

variable {members : Members} {code : DeviceCode}

/-- Whether polling with a device code ends though it is put off every time: however many answers
the service is ready to give, no more than a certain number of requests is sent. -/
def EndsThoughPending (code : DeviceCode) (context : Context) : Prop :=
  ∀ answers : Nat → Response, (∀ index, (answers index).IsPending) →
    ∃ bound, ∀ count, bound ≤ count →
      ((context.awaiting answers count).pollTranscript code).length ≤ bound

/-- Whether a device code can be polled at its pace by every credential for such codes: the interval
is a second at least, that much passes before each request for a token, and polling that is put off
every time ends where the clock counts in whole seconds. On a clock that shows fractions a sum can
be rounded, so that a pause of a second moves a clock far from its beginning by less or not at
all. -/
structure HasUsablePace (code : DeviceCode) : Prop where
  interval : 1 ≤ code.interval
  paced : ∀ context held, context.credential.grant = .deviceCode held →
    ∃ rounds, PollRound.Lead context.world rounds ((poll (some code) none).run context).2.world ∧
      ∀ round ∈ rounds,
        round.IsAskedBy (context.credential.forDeviceCode code.deviceCode) ∧ 1 ≤ round.interval
  ends : ∀ context held, context.credential.grant = .deviceCode held →
    context.world.ShowsWhole → code.EndsThoughPending context

/-- Polling a service that puts it off is polling up to the end of the lifetime. -/
theorem pollTranscript_awaiting {context : Context} {held : Value}
    (hgrant : context.credential.grant = .deviceCode held) {seconds : Int}
    (hclock : context.ShowsElapsed seconds) (code : DeviceCode) (answers : Nat → Response)
    (count : Nat) :
    (context.awaiting answers count).pollTranscript code =
      (context.awaiting answers count).world.transcript
        ((pollFrom (.whole (seconds + code.expiresIn)) (count + 1) code.interval).run
          { context.awaiting answers count with
            credential := context.credential.forDeviceCode code.deviceCode }).2.world := by
  have hwaiting : (context.awaiting answers count).ShowsElapsed seconds := hclock
  have hheld : (context.awaiting answers count).credential.grant = .deviceCode held := hgrant
  have hpolls : (context.awaiting answers count).enoughPolls = count + 1 := by
    simp [enoughPolls, awaiting]
  have hrun : (poll (some code) none).run (context.awaiting answers count) =
      (pollWith code (context.awaiting answers count).enoughPolls).run
        (context.awaiting answers count) := rfl
  have hdeadline : (context.awaiting answers count).deadline? code =
      some (.whole (seconds + code.expiresIn)) := by
    rw [deadline?, hwaiting.elapsed, Number.add?_whole]
  rw [pollTranscript, hrun, hpolls, pollWith_run code _ hheld, hdeadline]
  rfl

theorem endsThoughPending {context : Context} {held : Value}
    (hgrant : context.credential.grant = .deviceCode held) (hclock : context.world.ShowsWhole)
    (hinterval : 1 ≤ code.interval) : code.EndsThoughPending context := by
  intro answers hpending
  refine ⟨(max 1 code.expiresIn).toNat, fun count hcount => ?_⟩
  obtain ⟨first, now, hfirst, hnow⟩ := hclock
  have helapsed : context.ShowsElapsed (now - first) :=
    ⟨first, hfirst, by rw [hnow, add_sub_cancel]⟩
  rw [pollTranscript_awaiting hgrant helapsed]
  let asking : Context := { context.awaiting answers count with
    credential := context.credential.forDeviceCode code.deviceCode }
  rcases holdsCode_or_asksNothing (show asking.credential.grant = .deviceCode _ from rfl) rfl with
    ⟨hcounted, fields, hholds⟩ | hnothing
  · have hreplies : asking.world.replies = ((List.range count).map answers).map .response := by
      rw [List.map_map]
      rfl
    have hpending : ∀ answer ∈ (List.range count).map answers, answer.IsPending := by
      simp [hpending]
    have hlength : ((List.range count).map answers).length = count := by simp
    obtain ⟨requests, hfew, hsends⟩ := pollFrom_pending_le hpending hholds hcounted hreplies
      helapsed hinterval
      (show max 1 (now - first + code.expiresIn - (now - first)) ≤ _ by rw [hlength]; omega)
      (Nat.lt_succ_of_le hlength.le)
    rw [add_sub_cancel_left] at hfew
    rw [hsends.transcript_eq, List.length_mapIdx]
    omega
  · rw [((hnothing.endsUnasked code.interval).sends _).transcript_eq]
    exact Nat.zero_le _

/-- With no pause at all and a lifetime, a credential for device codes polls as long as it is put
off. -/
theorem length_pollTranscript_ge {context : Context} {held : Value} {word : String}
    (hgrant : context.credential.grant = .deviceCode held)
    (hclient : Text.isBlankText context.credential.config.clientId = false)
    (hcounted : context.credential.client.IsCounted) {seconds : Int}
    (hclock : context.ShowsElapsed seconds) (hcode : code.deviceCode = .text word)
    (hword : Text.isBlankText word = false) (hinterval : code.interval = 0)
    (hlifetime : 0 < code.expiresIn) {answers : Nat → Response}
    (hpending : ∀ index, (answers index).IsPending) (count : Nat) :
    count ≤ ((context.awaiting answers count).pollTranscript code).length := by
  rw [pollTranscript_awaiting hgrant hclock, hinterval]
  let asking : Context := { context.awaiting answers count with
    credential := context.credential.forDeviceCode code.deviceCode }
  obtain ⟨fields, hholds⟩ : ∃ fields, asking.HoldsCode fields := by
    obtain ⟨fields, -, -, hform, hnull⟩ := exists_holdsCode hclient hcode hword
    exact ⟨fields, hform, hnull⟩
  have hreplies : asking.world.replies = ((List.range count).map answers).map .response := by
    rw [List.map_map]
    rfl
  have hpending : ∀ answer ∈ (List.range count).map answers, answer.IsPending := by
    simp [hpending]
  have hlength : ((List.range count).map answers).length = count := by simp
  obtain ⟨requests, hmany, hsends⟩ := pollFrom_pending_all hpending hholds hcounted hreplies
    (show asking.ShowsElapsed seconds from hclock)
    (show seconds < seconds + code.expiresIn by omega)
    (Nat.lt_succ_of_le hlength.le)
  rw [hlength] at hmany
  rw [hsends.transcript_eq, List.length_mapIdx]
  exact hmany

theorem ofResponse_interval (h : ofResponse (.object members) = .ok code) :
    ((Value.member members "interval").orElse (.int defaultInterval)).toInteger =
      .ok code.interval := by
  rw [ofResponse] at h
  obtain ⟨found, hfound, h⟩ := Failure.of_bind_ok h
  cases hfound
  dsimp only at h
  split at h
  next => cases h
  next =>
    obtain ⟨lifetime, -, h⟩ := Failure.of_bind_ok h
    obtain ⟨interval, hinterval, h⟩ := Failure.of_bind_ok h
    cases h
    exact hinterval

/-- A device code that is accepted has a usable pace exactly when its interval is left to the
default or comes to a second at least. -/
theorem accepted_pace_isUsable_iff (h : ofResponse (.object members) = .ok code) :
    code.HasUsablePace ↔ (Value.member members "interval").SaysPace := by
  rw [Value.saysPace_iff (ofResponse_interval h)]
  constructor
  · exact fun hpace => hpace.interval
  · intro hinterval
    refine ⟨hinterval, fun context held hgrant => ?_, fun context held hgrant hclock =>
      endsThoughPending hgrant hclock hinterval⟩
    have hrun : (poll (some code) none).run context = _ := pollWith_run code _ hgrant
    rw [hrun]
    cases context.deadline? code with
    | none => exact ⟨[], rfl, by simp⟩
    | some deadline =>
        obtain ⟨rounds, hlead, hrounds⟩ := pollFrom_rounds deadline context.enoughPolls
          code.interval
          { context with credential := context.credential.forDeviceCode code.deviceCode }
        exact ⟨rounds, hlead, fun round hround =>
          ⟨(hrounds round hround).1, hinterval.trans (hrounds round hround).2⟩⟩

/-- The answer to a request for a device code, with an interval. -/
def trialMembers (interval : Value) : Members := [
  ("device_code", .text "device"), ("user_code", .text "user"),
  ("verification_uri", .text "https://device.example"), ("expires_in", .int 900),
  ("interval", interval)]

/-- An answer that puts a poll off. -/
def pendingAnswer : Response := ⟨400, "\x7b\"error\":\"authorization_pending\"\x7d"⟩

theorem pendingAnswer_isPending : pendingAnswer.IsPending := ⟨by decide, by decide +kernel⟩

theorem exists_ofResponse_trialMembers {interval : Value} {seconds : Int}
    (h : (interval.orElse (.int defaultInterval)).toInteger = .ok seconds) :
    ∃ code, ofResponse (.object (trialMembers interval)) = .ok code ∧
      code.deviceCode = .text "device" ∧ code.interval = seconds ∧ code.expiresIn = 900 := by
  refine ⟨{
    deviceCode := .text "device", userCode := .text "user"
    verificationUri := .text "https://device.example", expiresIn := 900, interval := seconds },
    ?_, rfl, rfl, rfl⟩
  change ((interval.orElse (.int defaultInterval)).toInteger >>= fun _ => _) = _
  rw [h]
  rfl

theorem spaced_text_isUsable :
    ∃ code, ofResponse (.object (trialMembers (.text " 7"))) = .ok code ∧ code.HasUsablePace := by
  obtain ⟨code, hcode, -, -⟩ := exists_ofResponse_trialMembers
    (show ((Value.text " 7").orElse (.int defaultInterval)).toInteger = .ok 7 from rfl)
  exact ⟨code, hcode,
    (accepted_pace_isUsable_iff hcode).mpr (.inr ⟨7, by decide +kernel, by decide⟩)⟩

/-- The text of a zero is accepted and comes to no pause at all, so that polling goes on as long as
it is put off. -/
theorem zero_text_isNotUsable :
    ∃ code, ofResponse (.object (trialMembers (.text "0"))) = .ok code ∧ ¬ code.HasUsablePace ∧
      ∀ count, count ≤
        ((pollingTrial.awaiting (fun _ => pendingAnswer) count).pollTranscript code).length := by
  obtain ⟨code, hcode, hword, hinterval, hlifetime⟩ := exists_ofResponse_trialMembers
    (show ((Value.text "0").orElse (.int defaultInterval)).toInteger = .ok 0 from rfl)
  refine ⟨code, hcode, fun hpace => ?_, fun count => ?_⟩
  · have := hpace.interval
    omega
  · exact length_pollTranscript_ge rfl (by decide) ⟨_, _, rfl⟩
      (show pollingTrial.ShowsElapsed 0 from ⟨0, rfl, rfl⟩) hword (by decide)
      hinterval (by omega) (fun _ => pendingAnswer_isPending) count

end DeviceCode

end OAuthClient
