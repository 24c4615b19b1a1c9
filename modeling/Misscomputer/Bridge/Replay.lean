import Misscomputer.Contract.Codec
import Misscomputer.Lib.Hmac
import Misscomputer.Lib.Machine
import Misscomputer.Lib.Reservation

set_option relaxedAutoImplicit false
set_option autoImplicit false

/-!
# Bridge requests are accepted once

The two services authenticate the requests between them by an HMAC over the timestamp, a nonce and the request. A
verification reads the clock, checks the request against that reading, and then reserves the nonce in its
own transaction, which reads the clock again and forgets the nonces that have expired by then. Any time may pass
between the two, and verifications interleave in any way.

## Main definitions

* `Bridge.verify` — the checks before the reservation, with their parameters for the two services.
* `Bridge.Authenticator.verify`, `Bridge.verifyBridgeHeaders` — the two services.
* `Bridge.step` — the interleaving of any number of verifications over one replay store.
* `Bridge.Prompt` — a reservation reads the clock before an accepted one of its nonce expires.

## Main results

* `Bridge.Guarded.reserve_iff` — a reservation succeeds just when every accepted one of its nonce has expired.
* `Bridge.accepted_once` — the runs that accept no request twice.
* `Bridge.accepted_twice` — a run that accepts one request twice.

## Implementation notes

Times are Unix nanoseconds. `strings.ToUpper`, `str.upper` and `int` are parameters. The header names of a request
are looked up before: a request is what the headers of these names hold.

## References

* `pkg/bridge/auth.go`
* `pkg/durable/store.go` (`ReserveReplay`, `validateReplayReservation`, `reserveReplayTx`)
* `src/misscomputer_subnet/auth.py` (`SQLiteBridgeReplay`, `verify_bridge_headers`)
-/

namespace Misscomputer

namespace Bridge

open Except (reject)
open Reservation (Rows Guards)

/-! ## Requests -/

/-- What an authenticated request says. -/
structure Request where
  /-- `X-Miss-Bridge-Version`. -/
  version : String
  /-- `X-Miss-Bridge-Timestamp`. -/
  timestamp : String
  /-- `X-Miss-Bridge-Nonce`. -/
  nonce : String
  /-- `X-Miss-Bridge-Signature`. -/
  signature : String
  method : String
  /-- The escaped path, and the query behind its question mark. -/
  target : String
  body : List UInt8
deriving DecidableEq

/-- What a service takes from its language. -/
structure Library where
  /-- `strings.ToUpper`, `str.upper`. -/
  upper : String → String
  /-- `strconv.ParseInt` to the base ten and 64 bits, `int`. -/
  int : String → Option ℤ

/-- `signatureFor`, and the HMAC over `_bridge_payload`. -/
def signatureFor (lib : Library) (secret : List UInt8) (r : Request) : String :=
  let payload := "\n".intercalate ["miss-bridge/1", r.timestamp, r.nonce, lib.upper r.method, r.target,
    Contract.sha256Hex r.body]
  String.ofList (Hex.encode ((Hmac.sha256 secret (Text.bytes payload.toList)).map UInt8.toNat))

/-- `2*time.Second`, in nanoseconds. -/
def skew : ℤ := 2000000000

/-- The checks of a verification on its reading of the clock, and when its reservation is to expire. -/
def verify (lib : Library) (minSecret : ℕ) (secret : List UInt8) (maxAge : ℤ) (r : Request) (now : ℤ) :
    Except String ℤ := do
  reject (secret.length < minSecret) "bridge authentication is not configured"
  reject (r.version ≠ "1") "unsupported bridge authentication version"
  reject (r.timestamp = "" ∨ r.nonce = "" ∨ r.signature = "") "missing bridge authentication headers"
  match lib.int r.timestamp with
  | none => .error "invalid bridge timestamp"
  | some timestamp =>
    reject (timestamp < now - maxAge ∨ now + skew < timestamp) "stale bridge request"
    reject (r.signature ≠ signatureFor lib secret r) "invalid bridge signature"
    return now + (maxAge + skew)

/-- `Authenticator`. -/
structure Authenticator where
  secret : List UInt8
  maxAge : ℤ

/-- `maxAge`, ten seconds by default. -/
def Authenticator.window (a : Authenticator) : ℤ := if a.maxAge ≤ 0 then 10000000000 else a.maxAge

/-- `Authenticator.Verify`, up to its reservation. -/
def Authenticator.verify (lib : Library) (a : Authenticator) (r : Request) (now : ℤ) : Except String ℤ :=
  Bridge.verify lib 32 a.secret a.window r now

/-- `verify_bridge_headers`, up to its reservation. -/
def verifyBridgeHeaders (lib : Library) (secret : List UInt8) (maxAge : ℤ) (r : Request) (now : ℤ) :
    Except String ℤ :=
  Bridge.verify lib 0 secret maxAge r now

/-! ## What a verification knows -/

section Verify

variable {lib : Library} {minSecret : ℕ} {secret : List UInt8} {maxAge now expires : ℤ} {r : Request}

lemma verify_eq_ok : verify lib minSecret secret maxAge r now = .ok expires ↔
    minSecret ≤ secret.length ∧ r.version = "1" ∧ ¬ (r.timestamp = "" ∨ r.nonce = "" ∨ r.signature = "") ∧
      (∃ timestamp, lib.int r.timestamp = some timestamp ∧ now - maxAge ≤ timestamp ∧ timestamp ≤ now + skew) ∧
      r.signature = signatureFor lib secret r ∧ now + (maxAge + skew) = expires := by
  unfold verify
  cases lib.int r.timestamp with
  | none => simp [Except.bind_eq_ok, Except.reject_eq_ok]
  | some timestamp =>
    simp only [Except.bind_eq_ok, Except.reject_eq_ok, exists_const, not_lt, not_not, not_or, Option.some.injEq,
      exists_eq_left', pure, Except.pure, Except.ok.injEq]

end Verify

/-! ## Interleavings -/

/-- A service with its replay store. -/
structure Service where
  lib : Library
  minSecret : ℕ
  secret : List UInt8
  maxAge : ℤ
  /-- Whether the store demands that a reservation expires after a reading of its own: `validateReplayReservation`. -/
  demanding : Bool

/-- The service in Go. -/
def Authenticator.service (lib : Library) (a : Authenticator) : Service := ⟨lib, 32, a.secret, a.window, true⟩

/-- The service in Python. -/
def pythonService (lib : Library) (secret : List UInt8) (maxAge : ℤ) : Service := ⟨lib, 0, secret, maxAge, false⟩

/-- The checks of a service before the reservation. -/
def Service.verify (b : Service) (r : Request) (now : ℤ) : Except String ℤ :=
  Bridge.verify b.lib b.minSecret b.secret b.maxAge r now

lemma Authenticator.verify_service (lib : Library) (a : Authenticator) (r : Request) (now : ℤ) :
    (a.service lib).verify r now = a.verify lib r now := rfl

lemma pythonService_verify (lib : Library) (secret : List UInt8) (maxAge : ℤ) (r : Request) (now : ℤ) :
    (pythonService lib secret maxAge).verify r now = verifyBridgeHeaders lib secret maxAge r now := rfl

/-- A verification between its checks and its reservation. -/
structure Pending where
  request : Request
  now : ℤ
  expires : ℤ

/-- The last reading of the clock, the verifications in flight, the replay store and the accepted verifications. -/
structure State where
  clock : ℤ
  pending : List Pending
  rows : Rows (String × String)
  accepted : List Pending

/-- The requests that were accepted. -/
def State.requests (s : State) : List Request := s.accepted.map Pending.request

/-- What happens next. -/
inductive Event
  /-- A verification reads the clock and checks its request. -/
  | check (r : Request) (now : ℤ)
  /-- The `i`-th verification in flight makes its reservation, with its two readings of the clock. -/
  | reserve (i : ℕ) (checked now : ℤ)
  /-- Something else is reserved in the same store. -/
  | other (scope key : String) (expires now : ℤ)

/-- One event; those against the order of the clock do not happen. -/
def step (b : Service) (s : State) : Event → State × Unit
  | .check r now =>
    if now < s.clock then (s, ())
    else match b.verify r now with
      | .error _ => ({ s with clock := now }, ())
      | .ok expires => ({ s with clock := now, pending := s.pending ++ [⟨r, now, expires⟩] }, ())
  | .reserve i checked now =>
    match s.pending[i]? with
    | none => (s, ())
    | some p =>
      if now < s.clock ∨ checked < p.now ∨ now < checked then (s, ())
      else if b.demanding = true ∧ p.expires ≤ checked then
        ({ s with clock := now, pending := s.pending.eraseIdx i }, ())
      else
        let reserved := Reservation.reserve s.rows ("bridge", p.request.nonce) p.expires now
        ({ clock := now, pending := s.pending.eraseIdx i, rows := reserved.1,
           accepted := if reserved.2 then s.accepted ++ [p] else s.accepted }, ())
  | .other scope key expires now =>
    if now < s.clock ∨ scope = "bridge" then (s, ())
    else ({ s with clock := now, rows := (Reservation.reserve s.rows (scope, key) expires now).1 }, ())

/-- Before the first request. -/
def start : State := ⟨0, [], [], []⟩

/-- The `i`-th verification in flight comes to its reservation of its nonce. -/
def Reserves (b : Service) (s : State) (i : ℕ) (checked now : ℤ) (p : Pending) : Prop :=
  s.pending[i]? = some p ∧ s.clock ≤ now ∧ p.now ≤ checked ∧ checked ≤ now ∧ (b.demanding = true → checked < p.expires)

/-- A reservation whose request was accepted before reads the clock before some accepted reservation of the nonce
expires. -/
def Prompt (b : Service) (s : State) : Event → Prop
  | .reserve i checked now => ∀ p, Reserves b s i checked now p → p.request ∈ s.requests →
      ∃ q ∈ s.accepted, q.request.nonce = p.request.nonce ∧ now < q.expires
  | _ => True

lemma step_reserve {b : Service} {s : State} {i : ℕ} {checked now : ℤ} {p : Pending}
    (h : Reserves b s i checked now p) : Machine.next (step b) s (.reserve i checked now) =
      { clock := now, pending := s.pending.eraseIdx i,
        rows := (Reservation.reserve s.rows ("bridge", p.request.nonce) p.expires now).1,
        accepted := if (Reservation.reserve s.rows ("bridge", p.request.nonce) p.expires now).2 then s.accepted ++ [p]
          else s.accepted } := by
  obtain ⟨hp, hclock, hafter, hbefore, hlive⟩ := h
  have horder : ¬ (now < s.clock ∨ checked < p.now ∨ now < checked) := by omega
  have hfuture : ¬ (b.demanding = true ∧ p.expires ≤ checked) := fun h => absurd (hlive h.1) (not_lt.mpr h.2)
  rw [Machine.next, step, hp]
  simp only [if_neg horder, if_neg hfuture]

/-- A step makes a reservation, or it leaves the replay store and the accepted verifications as they are but for
what is reserved beside. -/
lemma step_cases (b : Service) (s : State) (e : Event) :
    (∃ i checked now p, e = .reserve i checked now ∧ Reserves b s i checked now p) ∨
      ((∀ i checked now p, e = .reserve i checked now → ¬ Reserves b s i checked now p) ∧
        (Machine.next (step b) s e).accepted = s.accepted ∧ s.clock ≤ (Machine.next (step b) s e).clock ∧
        ((Machine.next (step b) s e).rows = s.rows ∨ ∃ scope key expires, scope ≠ "bridge" ∧
          (Machine.next (step b) s e).rows =
            (Reservation.reserve s.rows (scope, key) expires (Machine.next (step b) s e).clock).1)) := by
  cases e with
  | check r now =>
    refine .inr ⟨nofun, ?_⟩
    unfold Machine.next step
    dsimp only
    split
    · exact ⟨rfl, le_rfl, .inl rfl⟩
    · rename_i hclock
      cases b.verify r now with
      | error e => exact ⟨rfl, not_lt.mp hclock, .inl rfl⟩
      | ok expires => exact ⟨rfl, not_lt.mp hclock, .inl rfl⟩
  | reserve i checked now =>
    by_cases hp : ∃ p, Reserves b s i checked now p
    · obtain ⟨p, hp⟩ := hp
      exact .inl ⟨i, checked, now, p, rfl, hp⟩
    · refine .inr ⟨?_, ?_⟩
      · rintro _ _ _ p ⟨⟩ hr
        exact hp ⟨p, hr⟩
      · unfold Machine.next step
        cases hpending : s.pending[i]? with
        | none =>
          dsimp only
          rw [hpending]
          exact ⟨rfl, le_rfl, .inl rfl⟩
        | some p =>
          dsimp only
          rw [hpending]
          dsimp only
          split
          · exact ⟨rfl, le_rfl, .inl rfl⟩
          · rename_i horder
            split
            · exact ⟨rfl, not_lt.mp fun h => horder (.inl h), .inl rfl⟩
            · rename_i hfuture
              refine absurd ⟨p, hpending, ?_, ?_, ?_, fun hd => ?_⟩ hp
              · omega
              · omega
              · omega
              · exact not_le.mp fun hle => hfuture ⟨hd, hle⟩
  | other scope key expires now =>
    refine .inr ⟨nofun, ?_⟩
    unfold Machine.next step
    dsimp only
    split
    · exact ⟨rfl, le_rfl, .inl rfl⟩
    · rename_i hclock
      exact ⟨rfl, not_lt.mp fun h => hclock (.inl h), .inr ⟨scope, key, expires, fun h => hclock (.inr h), rfl⟩⟩

/-! ## The replay store and the accepted verifications -/

/-- The replay store holds the accepted nonces until they expire, and no other nonce of a bridge request. -/
structure Guarded (s : State) : Prop where
  guards : ∀ q ∈ s.accepted, Guards s.rows s.clock ("bridge", q.request.nonce) q.expires
  known : ∀ nonce expires, (("bridge", nonce), expires) ∈ s.rows →
    ∃ q ∈ s.accepted, q.request.nonce = nonce ∧ q.expires = expires

lemma guarded_start : Guarded start := ⟨List.forall_mem_nil _, nofun⟩

/-- **A reservation succeeds just when every accepted reservation of its nonce has expired.** -/
lemma Guarded.reserve_iff {s : State} (h : Guarded s) (nonce : String) (expires : ℤ) {now : ℤ}
    (hclock : s.clock ≤ now) :
    (Reservation.reserve s.rows ("bridge", nonce) expires now).2 = true ↔
      ∀ q ∈ s.accepted, q.request.nonce = nonce → q.expires ≤ now := by
  constructor
  · rintro haccepted q hq rfl
    by_contra hlive
    rw [(h.guards q hq).refuses hclock (not_le.mp hlive)] at haccepted
    cases haccepted
  · intro hexpired
    rcases Reservation.reserve_cases s.rows ("bridge", nonce) expires now with ⟨hrow, -⟩ | ⟨-, heq⟩
    · obtain ⟨⟨key, until_⟩, hmem, hkey⟩ := List.mem_map.mp hrow
      obtain ⟨hmem, hlive⟩ := Reservation.mem_purge.mp hmem
      obtain rfl : key = ("bridge", nonce) := hkey
      obtain ⟨q, hq, hnonce, rfl⟩ := h.known _ _ hmem
      exact absurd (hexpired q hq hnonce) (not_le.mpr hlive)
    · rw [heq]

/-- **One event** keeps the replay store in step with the accepted verifications. -/
lemma guarded_step {b : Service} {s : State} (e : Event) (h : Guarded s) : Guarded (Machine.next (step b) s e) := by
  rcases step_cases b s e with ⟨i, checked, now, p, rfl, hp⟩ | ⟨-, haccepted, hclock, hrows⟩
  · rw [step_reserve hp]
    rcases Reservation.reserve_cases s.rows ("bridge", p.request.nonce) p.expires now with ⟨-, heq⟩ | ⟨-, heq⟩
    · rw [heq]
      exact ⟨fun q hq => (h.guards q hq).mono hp.2.1, h.known⟩
    · have hkept : ∀ q ∈ s.accepted, Guards (Reservation.reserve s.rows ("bridge", p.request.nonce) p.expires now).1 now
          ("bridge", q.request.nonce) q.expires := fun q hq => (h.guards q hq).reserve hp.2.1
      have hown : Guards (Reservation.reserve s.rows ("bridge", p.request.nonce) p.expires now).1 now
          ("bridge", p.request.nonce) p.expires := Reservation.guards_of_reserve (by rw [heq]) le_rfl
      rw [heq] at hkept hown ⊢
      refine ⟨fun q hq => ?_, fun nonce expires hmem => ?_⟩
      · rcases List.mem_append.mp hq with hq | hq
        · exact hkept q hq
        · rw [List.mem_singleton.mp hq]
          exact hown
      · rcases List.mem_cons.mp hmem with hnew | hold
        · cases hnew
          exact ⟨p, List.mem_append_right _ (List.mem_singleton_self p), rfl, rfl⟩
        · obtain ⟨q, hq, hq'⟩ := h.known nonce expires (Reservation.mem_purge.mp hold).1
          exact ⟨q, List.mem_append_left _ hq, hq'⟩
  · refine ⟨fun q hq => ?_, fun nonce expires hmem => ?_⟩
    · rw [haccepted] at hq
      rcases hrows with hrows | ⟨scope, key, expires, -, hrows⟩
      · rw [hrows]
        exact (h.guards q hq).mono hclock
      · rw [hrows]
        exact (h.guards q hq).reserve hclock
    · rw [haccepted]
      rcases hrows with hrows | ⟨scope, key, expires', hscope, hrows⟩
      · exact h.known nonce expires (hrows ▸ hmem)
      · rw [hrows] at hmem
        rcases Reservation.reserve_cases s.rows (scope, key) expires' (Machine.next (step b) s e).clock with
          ⟨-, heq⟩ | ⟨-, heq⟩
        · rw [heq] at hmem
          exact h.known nonce expires hmem
        · rw [heq] at hmem
          rcases List.mem_cons.mp hmem with hnew | hold
          · cases hnew
            exact absurd rfl hscope
          · exact h.known nonce expires (Reservation.mem_purge.mp hold).1

/-- **A step accepts a request again just where it is not prompt.** -/
lemma nodup_step {b : Service} {s : State} (e : Event) (h : Guarded s) (hnodup : s.requests.Nodup) :
    (Machine.next (step b) s e).requests.Nodup ↔ Prompt b s e := by
  rcases step_cases b s e with ⟨i, checked, now, p, rfl, hp⟩ | ⟨hno, haccepted, -⟩
  · have honly : Prompt b s (.reserve i checked now) ↔ (p.request ∈ s.requests →
        ∃ q ∈ s.accepted, q.request.nonce = p.request.nonce ∧ now < q.expires) := by
      refine ⟨fun h => h p hp, fun h p' hp' => ?_⟩
      obtain rfl : p = p' := Option.some.inj (hp.1.symm.trans hp'.1)
      exact h
    rw [honly, step_reserve hp, State.requests]
    have hiff := h.reserve_iff p.request.nonce p.expires hp.2.1
    cases hreserved : (Reservation.reserve s.rows ("bridge", p.request.nonce) p.expires now).2 with
    | false =>
      rw [hreserved] at hiff
      simp only [Bool.false_eq_true, if_false, false_iff, not_forall, not_le] at hiff ⊢
      obtain ⟨q, hq, hnonce, hlive⟩ := hiff
      exact iff_of_true hnodup fun _ => ⟨q, hq, hnonce, hlive⟩
    | true =>
      have hexpired := hiff.mp hreserved
      simp only [if_true, List.map_append, List.map_singleton]
      rw [← List.concat_eq_append, List.nodup_concat]
      constructor
      · rintro ⟨hnew, -⟩ hold
        exact absurd hold hnew
      · intro hprompt
        refine ⟨fun hold => ?_, hnodup⟩
        obtain ⟨q, hq, hnonce, hlive⟩ := hprompt hold
        exact absurd (hexpired q hq hnonce) (not_le.mpr hlive)
  · rw [State.requests, haccepted]
    refine iff_of_true hnodup ?_
    cases e with
    | check r now => trivial
    | reserve i checked now => exact fun p hp => absurd hp (hno i checked now p rfl)
    | other scope key expires now => trivial

/-- What was accepted stays accepted. -/
lemma requests_step (b : Service) (s : State) (e : Event) : s.requests <+: (Machine.next (step b) s e).requests := by
  rcases step_cases b s e with ⟨i, checked, now, p, rfl, hp⟩ | ⟨-, haccepted, -⟩
  · rw [step_reserve hp, State.requests, State.requests]
    split
    · rw [List.map_append]
      exact List.prefix_append _ _
    · exact List.prefix_rfl
  · have hrequests : (Machine.next (step b) s e).requests = s.requests := by
      rw [State.requests, State.requests, haccepted]
    exact hrequests ▸ List.prefix_rfl

/-- **A run of verifications accepts no request twice just when all its steps are prompt.** -/
theorem run_nodup_iff (b : Service) (events : List Event) :
    (Machine.run (step b) start events).requests.Nodup ↔ Machine.Meets (step b) (Prompt b) start events :=
  Machine.run_iff_meets (fun _ e h => guarded_step e h) (fun _ e h hnodup => nodup_step e h hnodup)
    (fun s e h => (requests_step b s e).sublist.nodup h) guarded_start List.nodup_nil

/-- **The Go service with a store, and the Python service, accept no bridge request twice just in the runs in which
every reservation of an accepted request comes before its nonce expires.** -/
theorem accepted_once (lib : Library) (a : Authenticator) (secret : List UInt8) (maxAge : ℤ) (events : List Event) :
    ((Machine.run (step (a.service lib)) start events).requests.Nodup ↔
      Machine.Meets (step (a.service lib)) (Prompt (a.service lib)) start events) ∧
    ((Machine.run (step (pythonService lib secret maxAge)) start events).requests.Nodup ↔
      Machine.Meets (step (pythonService lib secret maxAge)) (Prompt (pythonService lib secret maxAge)) start events) :=
  ⟨run_nodup_iff _ _, run_nodup_iff _ _⟩

/-! ## A request that is accepted twice -/

/-- A library whose strings are plain: no letters to raise, decimal digits to read. -/
def plain : Library where
  upper := id
  int s := if s ≠ "" ∧ s.toList.all Char.isDigit then
      some (s.toList.foldl (fun n c => 10 * n + (c.toNat - '0'.toNat)) 0)
    else none

/-- The service of the runs below. -/
def loopback : Authenticator := ⟨List.replicate 32 7, 0⟩

/-- What is signed, twenty seconds after the epoch. -/
def unsigned : Request := ⟨"1", "20000000000", "bm9uY2U", "", "POST", "/v1/weights", []⟩

/-- The signed request. -/
def signed : Request := { unsigned with signature := signatureFor plain loopback.secret unsigned }

lemma signed_signature : signed.signature = signatureFor plain loopback.secret signed := rfl

lemma signatureFor_ne (lib : Library) (secret : List UInt8) (r : Request) : signatureFor lib secret r ≠ "" := by
  intro h
  have hlength := congrArg (fun s => s.toList.length) h
  simp [signatureFor, Hex.encode_length, Hmac.length_sha256] at hlength

lemma plain_int : plain.int unsigned.timestamp = some 20000000000 := by decide

/-- The signed request passes the checks from two seconds before its timestamp to ten seconds after it. -/
lemma signed_verify {now : ℤ} (hearly : 18000000000 ≤ now) (hlate : now ≤ 30000000000) :
    (loopback.service plain).verify signed now = .ok (now + 12000000000) := by
  refine verify_eq_ok.mpr ⟨by decide, rfl, ?_, ⟨20000000000, plain_int, ?_, ?_⟩, signed_signature, rfl⟩
  · rintro (h | h | h)
    · exact absurd h (by decide)
    · exact absurd h (by decide)
    · exact signatureFor_ne _ _ _ h
  · have hwindow : (loopback.service plain).maxAge = 10000000000 := rfl
    omega
  · rw [skew]
    omega

/-- A check of the signed request. -/
lemma step_signed {s : State} {now : ℤ} (hclock : s.clock ≤ now) (hearly : 18000000000 ≤ now)
    (hlate : now ≤ 30000000000) : Machine.next (step (loopback.service plain)) s (.check signed now) =
      { s with clock := now, pending := s.pending ++ [⟨signed, now, now + 12000000000⟩] } := by
  rw [Machine.next, step, if_neg (not_lt.mpr hclock), signed_verify hearly hlate]

/-- The reservation of the only verification in flight. -/
lemma step_reserved {rows : Rows (String × String)} {accepted : List Pending} {checked : ℤ}
    (hreserve : Reservation.reserve rows ("bridge", signed.nonce) (checked + 12000000000) checked =
      ([(("bridge", signed.nonce), checked + 12000000000)], true)) :
    Machine.next (step (loopback.service plain)) ⟨checked, [⟨signed, checked, checked + 12000000000⟩], rows, accepted⟩
        (.reserve 0 checked checked) =
      ⟨checked, [], [(("bridge", signed.nonce), checked + 12000000000)],
        accepted ++ [⟨signed, checked, checked + 12000000000⟩]⟩ := by
  rw [step_reserve (p := ⟨signed, checked, checked + 12000000000⟩)
    ⟨rfl, le_rfl, le_rfl, le_rfl, fun _ => lt_add_of_pos_right _ (by decide)⟩]
  simp only [hreserve, if_true, List.eraseIdx_cons_zero]

/-- A request that arrives ahead of its timestamp is accepted, for the first time. -/
lemma run_signed : Machine.run (step (loopback.service plain)) start
    [.check signed 18000000000, .reserve 0 18000000000 18000000000] =
      ⟨18000000000, [], [(("bridge", signed.nonce), 30000000000)], [⟨signed, 18000000000, 30000000000⟩]⟩ := by
  rw [Machine.run_cons, step_signed (by decide) (by decide) (by decide), Machine.run_cons]
  exact step_reserved (by decide)

/-- **One request is accepted twice**, by the Go service with a store. It comes two seconds ahead of its timestamp,
so that its nonce is forgotten ten seconds after it; at that instant it is still fresh. -/
theorem accepted_twice : ∃ events,
    (Machine.run (step (loopback.service plain)) start events).requests = [signed, signed] ∧
      ¬ (Machine.run (step (loopback.service plain)) start events).requests.Nodup := by
  have hrun : (Machine.run (step (loopback.service plain)) start ([.check signed 18000000000,
      .reserve 0 18000000000 18000000000] ++ [.check signed 30000000000, .reserve 0 30000000000 30000000000])).requests =
        [signed, signed] := by
    rw [Machine.run_append, run_signed, Machine.run_cons, step_signed (by decide) (by decide) (by decide),
      Machine.run_cons, List.nil_append, step_reserved (by decide)]
    rfl
  refine ⟨_, hrun, ?_⟩
  rw [hrun]
  simp

end Bridge

end Misscomputer
