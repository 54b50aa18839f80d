/-
This file proves that the exchange of authorization codes is safe in every
interleaving. An exchange takes its code under the lock and does the rest without
it, so other exchanges and authorizations run in between. A code is taken by one
exchange at most, and it is gone from then on, whether that exchange succeeds or
not; an exchange that returns a token has taken the record of an earlier
authorization for its client, within its time, whose challenge is that of the
verifier.
-/

import SharedGo.OAuthProvider
import SharedGo.Threads

namespace SharedGo.OAuth

open SharedGo Text Runs

/-! ### Interleavings -/

structure ExchangeCall where
  clientID : String
  code : String
  codeVerifier : String
  deriving DecidableEq, Repr

/-- How far an exchange is: it holds the record that it took, or has returned, with the record if
it took one. -/
inductive ExchangePhase where
  | holding (record : AuthCodeRecord)
  | returned (record : Option AuthCodeRecord) (result : Except OAuthError String)

/-- The record that an exchange took. -/
def ExchangePhase.record : ExchangePhase → Option AuthCodeRecord
  | .holding record => some record
  | .returned record _ => record

/-- The provider, and the exchanges that have started. -/
structure PkceState where
  provider : MockOAuthProvider
  exchanges : Threads ExchangeCall ExchangePhase

/-- The calls of AuthorizePKCE, and the two sections of the calls of ExchangeAuthCode. -/
inductive PkceEvent where
  | authorize (request : AuthorizeRequest) (codeBytes : Except String Bytes) (readAt : Time)
  | take (id : Nat) (call : ExchangeCall)
  | finish (id : Nat) (times : CallTimes)

def pkceStep (sign : Signer) (state : PkceState) : PkceEvent → Option PkceState
  | .authorize request codeBytes readAt =>
    some { state with provider := (state.provider.authorizePKCE request codeBytes readAt).2 }
  | .take id call =>
    match state.exchanges id, state.provider.takeAuthCode call.code with
    | some _, _ => none
    | none, (none, left) =>
      some ⟨left, state.exchanges.advance id call (.returned none (.error .invalidGrant))⟩
    | none, (some record, left) =>
      some ⟨left, state.exchanges.advance id call (.holding record)⟩
  | .finish id times =>
    match state.exchanges id with
    | some (call, .holding record) =>
      some { state with
        exchanges := state.exchanges.advance id call (.returned (some record)
          (state.provider.redeem sign record call.clientID call.codeVerifier times)) }
    | _ => none

/-- A new provider, with no exchange under way. -/
def newPkceState (issuer audience : String) : PkceState :=
  ⟨newMockOAuthProvider issuer audience, fun _ => none⟩

/-- An authorization that succeeded. -/
structure Issue where
  request : AuthorizeRequest
  codeBytes : Bytes
  readAt : Time

def Issue.code (issue : Issue) : String := hexEncode issue.codeBytes

def Issue.record (issue : Issue) : AuthCodeRecord where
  code := issue.code
  clientID := issue.request.clientID
  userID := issue.request.userID
  codeChallenge := issue.request.challenge
  codeChallengeMethod := issue.request.method
  scopes := issue.request.scopes
  expiresAt := issue.readAt.add (5 * minute)

def issueOf : PkceEvent → Option Issue
  | .authorize request (.ok codeBytes) readAt =>
    if request.method = "S256" then some ⟨request, codeBytes, readAt⟩ else none
  | _ => none

/-- The authorizations of a run that succeeded. -/
def issues (events : List PkceEvent) : List Issue := events.filterMap issueOf

theorem issues_concat (past : List PkceEvent) (event : PkceEvent) :
    issues (past ++ [event]) = issues past ++ (issueOf event).toList :=
  filterMap_concat issueOf past event

/-- What a step does. -/
inductive PkceStepped (sign : Signer) (state : PkceState) : PkceEvent → PkceState → Prop
  | issued (event : PkceEvent) (issue : Issue) (issues : issueOf event = some issue) :
      PkceStepped sign state event
        { state with provider := { state.provider with
          authCodes := state.provider.authCodes.insert issue.code issue.record } }
  | refused (event : PkceEvent) (none : issueOf event = none) (authorize : ∃ request codeBytes
      readAt, event = .authorize request codeBytes readAt) :
      PkceStepped sign state event state
  | missed (id : Nat) (call : ExchangeCall) (fresh : state.exchanges id = none)
      (missing : state.provider.authCodes.lookup call.code = none) :
      PkceStepped sign state (.take id call) { state with
        exchanges := state.exchanges.advance id call (.returned none (.error .invalidGrant)) }
  | taken (id : Nat) (call : ExchangeCall) (record : AuthCodeRecord)
      (fresh : state.exchanges id = none)
      (found : state.provider.authCodes.lookup call.code = some record) :
      PkceStepped sign state (.take id call)
        ⟨{ state.provider with authCodes := state.provider.authCodes.erase call.code },
          state.exchanges.advance id call (.holding record)⟩
  | finished (id : Nat) (call : ExchangeCall) (record : AuthCodeRecord) (times : CallTimes)
      (held : state.exchanges id = some (call, .holding record)) :
      PkceStepped sign state (.finish id times) { state with
        exchanges := state.exchanges.advance id call (.returned (some record)
          (state.provider.redeem sign record call.clientID call.codeVerifier times)) }

theorem pkceStepped (sign : Signer) (state : PkceState) (event : PkceEvent) (next : PkceState)
    (stepped : pkceStep sign state event = some next) : PkceStepped sign state event next := by
  cases event with
  | authorize request codeBytes readAt =>
    obtain rfl := Option.some_inj.mp stepped
    unfold MockOAuthProvider.authorizePKCE
    split_ifs with method
    · refine .refused _ ?_ ⟨request, codeBytes, readAt, rfl⟩
      cases codeBytes with
      | error reason => rfl
      | ok bytes => exact if_neg method
    · cases codeBytes with
      | error reason => exact .refused _ rfl ⟨request, .error reason, readAt, rfl⟩
      | ok bytes => exact .issued _ ⟨request, bytes, readAt⟩ (if_pos (not_not.mp method))
  | take id call =>
    unfold pkceStep MockOAuthProvider.takeAuthCode at stepped
    cases fresh : state.exchanges id with
    | some exchange =>
      simp only [fresh] at stepped
      cases stepped
    | none =>
      cases found : state.provider.authCodes.lookup call.code with
      | none =>
        simp only [fresh, found, Option.some_inj] at stepped
        rw [← stepped]
        exact .missed id call fresh found
      | some record =>
        simp only [fresh, found, Option.some_inj] at stepped
        rw [← stepped]
        exact .taken id call record fresh found
  | finish id times =>
    unfold pkceStep at stepped
    rcases held : state.exchanges id with _ | ⟨call, record | ⟨record, result⟩⟩
    · simp only [held] at stepped
      cases stepped
    · simp only [held, Option.some_inj] at stepped
      rw [← stepped]
      exact .finished id call record times held
    · simp only [held] at stepped
      cases stepped

/-! ### What exchanges have taken -/

/-- Before the exchange took its code, some authorization had succeeded. -/
def IssuedBefore (past : List PkceEvent) (id : Nat) (call : ExchangeCall) (issue : Issue) : Prop :=
  ∃ before after, past = before ++ .take id call :: after ∧ issue ∈ issues before

theorem IssuedBefore.append {past : List PkceEvent} {id : Nat} {call : ExchangeCall}
    {issue : Issue} (earlier : IssuedBefore past id call issue) (more : List PkceEvent) :
    IssuedBefore (past ++ more) id call issue := by
  obtain ⟨before, after, rfl, member⟩ := earlier
  exact ⟨before, after ++ more, by simp, member⟩

theorem IssuedBefore.mem {past : List PkceEvent} {id : Nat} {call : ExchangeCall}
    {issue : Issue} (earlier : IssuedBefore past id call issue) : issue ∈ issues past := by
  obtain ⟨before, after, rfl, member⟩ := earlier
  rw [issues, List.filterMap_append]
  exact List.mem_append_left _ member

/-- The exchange returned what its record is redeemed for, at the time of its second section. -/
def Redeemed (issuer audience : String) (sign : Signer) (past : List PkceEvent) (id : Nat)
    (call : ExchangeCall) (record : AuthCodeRecord) (result : Except OAuthError String) : Prop :=
  ∃ times, .finish id times ∈ past ∧
    result = (newMockOAuthProvider issuer audience).redeem sign record call.clientID
      call.codeVerifier times

/-- What an exchange that took no record, or one, has returned. -/
def Answered (issuer audience : String) (sign : Signer) (past : List PkceEvent) (id : Nat)
    (call : ExchangeCall) : ExchangePhase → Prop
  | .holding _ => True
  | .returned none result => result = .error .invalidGrant
  | .returned (some record) result =>
    Redeemed issuer audience sign past id call record result

/-- The codes are those of authorizations; an exchange took the record of an earlier one, which is
gone, and no other exchange took it. -/
structure Guarded (issuer audience : String) (sign : Signer) (past : List PkceEvent)
    (state : PkceState) : Prop where
  named : state.provider.issuer = issuer ∧ state.provider.audience = audience
  stored : ∀ code record, state.provider.authCodes.lookup code = some record →
    ∃ issue ∈ issues past, issue.code = code ∧ issue.record = record
  taken : ∀ id call phase record, state.exchanges id = some (call, phase) →
    phase.record = some record → state.provider.authCodes.lookup call.code = none ∧
      ∃ issue, IssuedBefore past id call issue ∧ issue.code = call.code ∧ issue.record = record
  single : ∀ id other call otherCall phase otherPhase, state.exchanges id = some (call, phase) →
    state.exchanges other = some (otherCall, otherPhase) → call.code = otherCall.code →
      phase.record.isSome = true → otherPhase.record.isSome = true → id = other
  answered : state.exchanges.Every (Answered issuer audience sign past)

theorem redeem_eq (sign : Signer) (provider : MockOAuthProvider) (record : AuthCodeRecord)
    (clientID codeVerifier : String) (times : CallTimes) :
    provider.redeem sign record clientID codeVerifier times =
      (newMockOAuthProvider provider.issuer provider.audience).redeem sign record clientID
        codeVerifier times := rfl

section Step

variable {issuer audience : String} {sign : Signer} {past : List PkceEvent} {state : PkceState}

theorem Answered.append {id : Nat} {call : ExchangeCall} {phase : ExchangePhase}
    (answered : Answered issuer audience sign past id call phase) (more : List PkceEvent) :
    Answered issuer audience sign (past ++ more) id call phase := by
  rcases phase with record | ⟨_ | record, result⟩
  · exact trivial
  · exact answered
  · obtain ⟨times, member, same⟩ := answered
    exact ⟨times, List.mem_append_left _ member, same⟩

variable (guarded : Guarded issuer audience sign past state)

include guarded

/-- An event that leaves the state alone keeps what is known of it. -/
theorem guarded_keep (event : PkceEvent) :
    Guarded issuer audience sign (past ++ [event]) state where
  named := guarded.named
  stored code record found := by
    obtain ⟨issue, member, isCode, isRecord⟩ := guarded.stored code record found
    rw [issues_concat]
    exact ⟨issue, List.mem_append_left _ member, isCode, isRecord⟩
  taken id call phase record current took := by
    obtain ⟨gone, issue, earlier, isCode, isRecord⟩ :=
      guarded.taken id call phase record current took
    exact ⟨gone, issue, earlier.append _, isCode, isRecord⟩
  single := guarded.single
  answered id call phase current := (guarded.answered id call phase current).append _

/-- A new code is not one that an exchange took. -/
theorem guarded_issue (event : PkceEvent) (issue : Issue) (issued : issueOf event = some issue)
    (distinct : ((issues (past ++ [event])).map Issue.code).Nodup) :
    Guarded issuer audience sign (past ++ [event])
      { state with provider := { state.provider with
        authCodes := state.provider.authCodes.insert issue.code issue.record } } := by
  have grown : issues (past ++ [event]) = issues past ++ [issue] := by
    rw [issues_concat, issued]
    rfl
  have fresh : ∀ old ∈ issues past, old.code ≠ issue.code := by
    rw [grown, List.map_append, List.nodup_append] at distinct
    intro old member
    exact distinct.2.2 old.code (List.mem_map_of_mem member) issue.code List.mem_cons_self
  have kept := guarded_keep guarded event
  refine ⟨kept.named, ?_, ?_, kept.single, kept.answered⟩
  · intro code record found
    rcases GoMap.lookup_insert_cases _ _ _ _ _ found with ⟨rfl, rfl⟩ | earlier
    · rw [grown]
      exact ⟨issue, List.mem_append_right _ List.mem_cons_self, rfl, rfl⟩
    · exact kept.stored code record earlier
  · intro id call phase record current took
    obtain ⟨gone, old, earlier, isCode, isRecord⟩ := kept.taken id call phase record current took
    refine ⟨?_, old, earlier, isCode, isRecord⟩
    obtain ⟨_, known, wasBefore, sameCode, _⟩ := guarded.taken id call phase record current took
    have other : call.code ≠ issue.code := sameCode ▸ fresh known wasBefore.mem
    exact (AList.lookup_insert_ne other).trans gone

/-- An exchange that finds no record takes none. -/
theorem guarded_miss (id : Nat) (call : ExchangeCall) :
    Guarded issuer audience sign (past ++ [.take id call]) { state with
      exchanges := state.exchanges.advance id call (.returned none (.error .invalidGrant)) } := by
  have kept := guarded_keep guarded (.take id call)
  have old (other : Nat) (otherCall : ExchangeCall) (phase : ExchangePhase)
      (current : state.exchanges.advance id call (.returned none (.error .invalidGrant)) other =
        some (otherCall, phase)) (took : phase.record.isSome = true) :
      state.exchanges other = some (otherCall, phase) := by
    rcases Threads.advance_cases _ _ _ _ _ _ _ current with ⟨_, _, rfl⟩ | earlier
    · cases took
    · exact earlier
  refine ⟨kept.named, kept.stored, ?_, ?_, ?_⟩
  · intro other otherCall phase record current took
    exact kept.taken other otherCall phase record
      (old other otherCall phase current (by rw [took]; rfl)) took
  · intro first second firstCall secondCall firstPhase secondPhase isFirst isSecond same tookFirst
      tookSecond
    exact kept.single first second firstCall secondCall firstPhase secondPhase
      (old first firstCall firstPhase isFirst tookFirst)
      (old second secondCall secondPhase isSecond tookSecond) same tookFirst tookSecond
  · exact Threads.every_advance _ _ id call _ kept.answered rfl

/-- An exchange takes a record that no other took. -/
theorem guarded_take (id : Nat) (call : ExchangeCall) (record : AuthCodeRecord)
    (found : state.provider.authCodes.lookup call.code = some record) :
    Guarded issuer audience sign (past ++ [.take id call])
      ⟨{ state.provider with authCodes := state.provider.authCodes.erase call.code },
        state.exchanges.advance id call (.holding record)⟩ := by
  have kept := guarded_keep guarded (.take id call)
  have shrinks (code : String) (gone : state.provider.authCodes.lookup code = none) :
      (state.provider.authCodes.erase call.code).lookup code = none := by
    refine Option.eq_none_iff_forall_ne_some.mpr fun old still => ?_
    rw [(GoMap.lookup_erase_some _ _ _ _ still).2] at gone
    cases gone
  have others (other : Nat) (otherCall : ExchangeCall) (phase : ExchangePhase)
      (current : state.exchanges other = some (otherCall, phase))
      (took : phase.record.isSome = true) : otherCall.code ≠ call.code := by
    obtain ⟨held, isHeld⟩ := Option.isSome_iff_exists.mp took
    intro same
    have gone := (guarded.taken other otherCall phase held current isHeld).1
    rw [same, found] at gone
    cases gone
  refine ⟨kept.named, ?_, ?_, ?_, ?_⟩
  · intro code old still
    exact kept.stored code old (GoMap.lookup_erase_some _ _ _ _ still).2
  · intro other otherCall phase held current took
    rcases Threads.advance_cases _ _ _ _ _ _ _ current with ⟨rfl, rfl, rfl⟩ | earlier
    · obtain rfl := Option.some_inj.mp took
      obtain ⟨issue, member, isCode, isRecord⟩ := guarded.stored _ _ found
      exact ⟨AList.lookup_erase _ _, issue, ⟨past, [], rfl, member⟩, isCode, isRecord⟩
    · obtain ⟨gone, origin⟩ := kept.taken other otherCall phase held earlier took
      exact ⟨shrinks otherCall.code gone, origin⟩
  · intro first second firstCall secondCall firstPhase secondPhase isFirst isSecond same tookFirst
      tookSecond
    rcases Threads.advance_cases _ _ _ _ _ _ _ isFirst with ⟨rfl, rfl, rfl⟩ | firstEarlier
    · rcases Threads.advance_cases _ _ _ _ _ _ _ isSecond with ⟨rfl, _, _⟩ | secondEarlier
      · rfl
      · exact absurd same.symm (others second secondCall secondPhase secondEarlier tookSecond)
    · rcases Threads.advance_cases _ _ _ _ _ _ _ isSecond with ⟨rfl, rfl, rfl⟩ | secondEarlier
      · exact absurd same (others first firstCall firstPhase firstEarlier tookFirst)
      · exact kept.single first second firstCall secondCall firstPhase secondPhase firstEarlier
          secondEarlier same tookFirst tookSecond
  · exact Threads.every_advance _ _ id call _ kept.answered trivial

/-- An exchange that returns keeps the record that it took. -/
theorem guarded_finish (id : Nat) (call : ExchangeCall) (record : AuthCodeRecord)
    (times : CallTimes) (held : state.exchanges id = some (call, .holding record)) :
    Guarded issuer audience sign (past ++ [.finish id times]) { state with
      exchanges := state.exchanges.advance id call (.returned (some record)
        (state.provider.redeem sign record call.clientID call.codeVerifier times)) } := by
  have kept := guarded_keep guarded (.finish id times)
  have old (other : Nat) (otherCall : ExchangeCall) (phase : ExchangePhase)
      (current : state.exchanges.advance id call (.returned (some record)
        (state.provider.redeem sign record call.clientID call.codeVerifier times)) other =
        some (otherCall, phase)) :
      ∃ earlier, state.exchanges other = some (otherCall, earlier) ∧
        earlier.record = phase.record := by
    rcases Threads.advance_cases _ _ _ _ _ _ _ current with ⟨rfl, rfl, rfl⟩ | same
    · exact ⟨.holding record, held, rfl⟩
    · exact ⟨phase, same, rfl⟩
  refine ⟨kept.named, kept.stored, ?_, ?_, ?_⟩
  · intro other otherCall phase taken current took
    obtain ⟨earlier, wasCurrent, same⟩ := old other otherCall phase current
    exact kept.taken other otherCall earlier taken wasCurrent (same.trans took)
  · intro first second firstCall secondCall firstPhase secondPhase isFirst isSecond same tookFirst
      tookSecond
    obtain ⟨firstEarlier, wasFirst, sameFirst⟩ := old first firstCall firstPhase isFirst
    obtain ⟨secondEarlier, wasSecond, sameSecond⟩ := old second secondCall secondPhase isSecond
    exact kept.single first second firstCall secondCall firstEarlier secondEarlier wasFirst
      wasSecond same (by rwa [sameFirst]) (by rwa [sameSecond])
  · refine Threads.every_advance _ _ id call _ kept.answered ?_
    refine ⟨times, List.mem_append_right _ List.mem_cons_self, ?_⟩
    rw [redeem_eq, guarded.named.1, guarded.named.2]

end Step

/-- In every interleaving of calls that issue different codes, no code is taken twice. -/
theorem run_guarded (issuer audience : String) (sign : Signer) (events : List PkceEvent)
    (state : PkceState) (run : exec (pkceStep sign) (newPkceState issuer audience) events =
      some state)
    (distinct : ((issues events).map Issue.code).Nodup) :
    Guarded issuer audience sign events state := by
  refine exec_histories (pkceStep sign) (newPkceState issuer audience)
    (fun past state => ((issues past).map Issue.code).Nodup →
      Guarded issuer audience sign past state) ?_ ?_ events state run distinct
  · intro _
    refine ⟨⟨rfl, rfl⟩, ?_, ?_, ?_, ?_⟩
    · intro code record found
      cases found
    · intro id call phase record current
      cases current
    · intro id other call otherCall phase otherPhase current
      cases current
    · intro id call phase current
      cases current
  · intro past state event next _ stepped guarded distinct
    have earlier : ((issues past).map Issue.code).Nodup := by
      rw [issues_concat, List.map_append, List.nodup_append] at distinct
      exact distinct.1
    have before := guarded earlier
    cases pkceStepped sign state event next stepped with
    | issued _ issue issued => exact guarded_issue before event issue issued distinct
    | refused => exact guarded_keep before event
    | missed id call fresh missing => exact guarded_miss before id call
    | taken id call record fresh found => exact guarded_take before id call record found
    | finished id call record times held => exact guarded_finish before id call record times held

/-! ### Tokens -/

/-- A record is redeemed for a token exactly in time, by its client, with the verifier of its
challenge, if the signer succeeds. -/
theorem redeem_ok_iff (provider : MockOAuthProvider) (sign : Signer) (record : AuthCodeRecord)
    (clientID codeVerifier : String) (times : CallTimes) (token : String) :
    provider.redeem sign record clientID codeVerifier times = .ok token ↔
      times.checked.after record.expiresAt = false ∧ record.clientID = clientID ∧
        s256 codeVerifier = record.codeChallenge ∧
          sign (provider.authCodeClaims record times) = .ok token := by
  unfold MockOAuthProvider.redeem
  split_ifs with late foreign unverified
  · simp [late]
  · simp [foreign]
  · simp [unverified]
  · rw [signToken_ok_iff]
    simp [late, not_not.mp foreign, not_not.mp unverified]

/-! ### The life of a code -/

/-- An exchange that took a record keeps it. -/
theorem exec_keeps_record (sign : Signer) (state final : PkceState) (events : List PkceEvent)
    (run : exec (pkceStep sign) state events = some final) (id : Nat) (call : ExchangeCall)
    (record : AuthCodeRecord)
    (holds : ∃ phase, state.exchanges id = some (call, phase) ∧ phase.record = some record) :
    ∃ phase, final.exchanges id = some (call, phase) ∧ phase.record = some record := by
  refine exec_keeps (pkceStep sign)
    (fun state => ∃ phase, state.exchanges id = some (call, phase) ∧ phase.record = some record)
    (fun _ => True) ?_ state final events (fun _ _ => trivial) run holds
  rintro state event next - stepped ⟨phase, current, took⟩
  have other (moved : Nat) (fresh : state.exchanges moved = none) : id ≠ moved := by
    rintro rfl
    rw [fresh] at current
    cases current
  cases pkceStepped sign state event next stepped with
  | issued => exact ⟨phase, current, took⟩
  | refused => exact ⟨phase, current, took⟩
  | missed moved movedCall fresh =>
    exact ⟨phase, (Threads.advance_of_ne _ _ _ _ _ (other moved fresh)).trans current, took⟩
  | taken moved movedCall movedRecord fresh =>
    exact ⟨phase, (Threads.advance_of_ne _ _ _ _ _ (other moved fresh)).trans current, took⟩
  | finished moved movedCall movedRecord times held =>
    by_cases same : id = moved
    · subst same
      rw [current] at held
      obtain ⟨rfl, rfl⟩ := Prod.mk.inj (Option.some_inj.mp held)
      exact ⟨_, Threads.advance_self _ _ _ _, took⟩
    · exact ⟨phase, (Threads.advance_of_ne _ _ _ _ _ same).trans current, took⟩

/-- An exchange takes the record that is there. -/
theorem take_holds (sign : Signer) (state next : PkceState) (id : Nat) (call : ExchangeCall)
    (record : AuthCodeRecord) (found : state.provider.authCodes.lookup call.code = some record)
    (stepped : pkceStep sign state (.take id call) = some next) :
    next.exchanges id = some (call, .holding record) := by
  generalize taken : PkceEvent.take id call = event at stepped
  cases pkceStepped sign state event next stepped with
  | issued _ issue issued =>
    subst taken
    cases issued
  | refused _ _ authorize =>
    subst taken
    obtain ⟨_, _, _, wrong⟩ := authorize
    cases wrong
  | missed _ _ _ missing =>
    cases taken
    rw [missing] at found
    cases found
  | taken _ _ other _ found' =>
    cases taken
    obtain rfl : other = record := Option.some_inj.mp (found'.symm.trans found)
    exact Threads.advance_self _ _ _ _
  | finished => cases taken

/-- In every interleaving of calls that issue different codes, a code yields one token at most, and
only to an exchange that was preceded by its authorization for the same client, within its time,
with the challenge of the verifier, and for the subject and the scopes of the authorization. An
exchange of a code that is there takes it for good, whatever it returns. -/
theorem pkce_exchange_safe (issuer audience : String) (sign : Signer) (events : List PkceEvent)
    (state : PkceState)
    (run : exec (pkceStep sign) (newPkceState issuer audience) events = some state)
    (distinct : ((issues events).map Issue.code).Nodup) :
    (∀ id other call otherCall record otherRecord token otherToken,
        state.exchanges id = some (call, .returned record (.ok token)) →
        state.exchanges other = some (otherCall, .returned otherRecord (.ok otherToken)) →
        call.code = otherCall.code → id = other) ∧
      (∀ id call record token,
        state.exchanges id = some (call, .returned record (.ok token)) →
        ∃ issue times, IssuedBefore events id call issue ∧ .finish id times ∈ events ∧
          issue.code = call.code ∧ issue.request.clientID = call.clientID ∧
          times.checked.nanoseconds ≤ issue.readAt.nanoseconds + 5 * minute ∧
          issue.request.challenge = s256 call.codeVerifier ∧
          ∃ claims, sign claims = .ok token ∧
            claims.lookup "sub" = some (.text issue.request.userID) ∧
            claims.lookup "scope" = some (.text (join " " issue.request.scopes))) ∧
      (∀ before after id call record middle, events = before ++ .take id call :: after →
        exec (pkceStep sign) (newPkceState issuer audience) before = some middle →
        middle.provider.authCodes.lookup call.code = some record →
        state.provider.authCodes.lookup call.code = none ∧
          ∀ other otherCall otherRecord token,
            state.exchanges other = some (otherCall, .returned otherRecord (.ok token)) →
            otherCall.code = call.code → other = id) := by
  have guarded := run_guarded issuer audience sign events state run distinct
  have tookRecord : ∀ id call record token,
      state.exchanges id = some (call, .returned record (.ok token)) →
      ∃ held, record = some held ∧
        Redeemed issuer audience sign events id call held (.ok token) := by
    intro id call record token current
    have answered := guarded.answered id call _ current
    cases record with
    | none => cases answered
    | some held => exact ⟨held, rfl, answered⟩
  refine ⟨?_, ?_, ?_⟩
  · intro id other call otherCall record otherRecord token otherToken current otherCurrent same
    obtain ⟨held, rfl, _⟩ := tookRecord id call record token current
    obtain ⟨otherHeld, rfl, _⟩ := tookRecord other otherCall otherRecord otherToken otherCurrent
    exact guarded.single id other call otherCall _ _ current otherCurrent same rfl rfl
  · intro id call record token current
    obtain ⟨held, rfl, times, member, redeemed⟩ := tookRecord id call record token current
    obtain ⟨_, issue, earlier, isCode, rfl⟩ := guarded.taken id call _ held current rfl
    obtain ⟨inTime, isClient, isChallenge, signed⟩ :=
      (redeem_ok_iff _ sign _ _ _ times token).mp redeemed.symm
    refine ⟨issue, times, earlier, member, isCode, isClient, ?_, isChallenge.symm, _, signed,
      (authCodeClaims_issued _ _ _).sub, (authCodeClaims_issued _ _ _).scope⟩
    exact Int.not_lt.mp (of_decide_eq_false inTime)
  · rintro before after id call record middle rfl ran found
    obtain ⟨reached, ranBefore, ranAfter⟩ := exec_append _ _ _ _ _ run
    obtain rfl : reached = middle := Option.some_inj.mp (ranBefore.symm.trans ran)
    obtain ⟨next, stepped, ranAfter⟩ := exec_cons _ _ _ _ _ ranAfter
    have holding := take_holds sign reached next id call record found stepped
    obtain ⟨phase, current, took⟩ := exec_keeps_record sign next state after ranAfter id call
      record ⟨_, holding, rfl⟩
    refine ⟨(guarded.taken id call phase record current took).1, ?_⟩
    intro other otherCall otherRecord token otherCurrent same
    obtain ⟨held, rfl, _⟩ := tookRecord other otherCall otherRecord token otherCurrent
    exact guarded.single other id otherCall call _ _ otherCurrent current same rfl
      (by rw [took]; rfl)

/-- Two exchanges of one code: the second takes its section while the first is between its two. -/
def racingExchanges : List PkceEvent :=
  [.authorize ⟨"spa", "alice", s256 "verifier", "S256", ["read"]⟩ (.ok [7]) ⟨0⟩,
    .take 0 ⟨"spa", "07", "verifier"⟩, .take 1 ⟨"spa", "07", "verifier"⟩,
    .finish 0 ⟨⟨1⟩, ⟨1⟩, ⟨1⟩⟩]

theorem racingExchanges_safe :
    ∃ state, exec (pkceStep fun _ => .ok "token") (newPkceState "iss" "aud") racingExchanges =
        some state ∧
      ((issues racingExchanges).map Issue.code).Nodup ∧
      (∃ record, state.exchanges 0 =
        some (⟨"spa", "07", "verifier"⟩, .returned record (.ok "token"))) ∧
      state.exchanges 1 =
        some (⟨"spa", "07", "verifier"⟩, .returned none (.error .invalidGrant)) ∧
      state.provider.authCodes.lookup "07" = none := by
  have distinct : ((issues racingExchanges).map Issue.code).Nodup := List.nodup_singleton _
  let record := Issue.record ⟨⟨"spa", "alice", s256 "verifier", "S256", ["read"]⟩, [7], ⟨0⟩⟩
  have redeemed (provider : MockOAuthProvider) :
      provider.redeem (fun _ => .ok "token") record "spa" "verifier" ⟨⟨1⟩, ⟨1⟩, ⟨1⟩⟩ =
        .ok "token" :=
    (redeem_ok_iff provider _ record "spa" "verifier" _ "token").mpr ⟨rfl, rfl, rfl, rfl⟩
  refine ⟨_, rfl, distinct, ⟨some record, ?_⟩, rfl, ?_⟩
  · refine congrArg (fun result => some (_, ExchangePhase.returned (some record) result)) ?_
    exact redeemed _
  · exact ((pkce_exchange_safe "iss" "aud" (fun _ => .ok "token") racingExchanges _ rfl
      distinct).2.2 [_] _ 0 ⟨"spa", "07", "verifier"⟩ record _ rfl rfl rfl).1

end SharedGo.OAuth
