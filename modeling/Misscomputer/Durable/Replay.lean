import Misscomputer.Durable.LeaseRefinement

set_option relaxedAutoImplicit false
set_option autoImplicit false

/-!
# Read-only replay and `Hold`

`ReplayHeldReservation` tests the row of a reservation column by column before it looks for a fence and a lease;
`Hold` looks for the fence first, and compares digests only. Both are asked the same question at the same time on the
same tables.

## Main definitions

* `Durable.Replayed` — what a replay found before it answered from the row of the reservation.

## Main results

* `Durable.replay_reads` — a replay that answers is about the row of its reservation.
* `Durable.replay_agrees_with_hold` — `Hold` gives the same answer.

## References

* `pkg/durable/sandbox_v1.go`
-/

namespace Misscomputer.Durable

open Sandbox Protocol

variable {w : Wire} {budget : Capacity} {s s' : LeaseStore} {r : SandboxReservationV1} {now waited : ℤ}

/-- What a replay found before it answered from the row of the reservation: the checks of `Hold` before its own
answer pass, and the row is the one of the reservation. -/
structure Replayed (w : Wire) (s : LeaseStore) (r : SandboxReservationV1) (h : HoldRow) (fenced : Bool) : Prop where
  checked : check (r.validate w) = .ok ()
  digest : digestOf (w.reservationDigest r) = .ok h.reservationDigest
  bound : bindUint64 r.generation = .ok ()
  row : s.holdOf r.identity = some h
  fence : sandboxFencedTx s r.identity (sandboxValidator r.subnet) = .ok fenced

/-- What `Hold` does once its checks passed and the identity has the row of the reservation. -/
lemma Replayed.hold_eq {h : HoldRow} {fenced : Bool} (hr : Replayed w s r h fenced) (t : ℤ) :
    hold w budget s r t =
      if fenced then .ok (finish s t (refused "released_before_use"))
      else if h.status = .committed ∨ h.status = .held ∧ t < h.holdExpiresAtNs then
        .ok (finish s t { stage := .held })
      else if h.status = .released then .ok (finish s t (refused "released_before_use"))
      else .ok (finish (s.setHolds (fun h => h.holdID == sandboxHoldIDV1 r && h.status == .held) .expired t) t
        (refused "hold_expired")) := by
  simp only [hold, hr.checked, hr.digest, hr.bound, hr.fence, hr.row, bind, Except.bind, ne_eq, not_true_eq_false,
    if_false]

/-- The checks before the row is read never fail with a fence. -/
lemma check_ne_fenced {validated : Except String Unit} : check validated ≠ .error .replayFenced := by
  cases validated <;> simp [check]

lemma digestOf_ne_fenced {digest : Option String} : digestOf digest ≠ .error .replayFenced := by
  cases digest <;> simp [digestOf]

lemma bindUint64_ne_fenced {n : ℕ} : bindUint64 n ≠ .error .replayFenced := by
  rw [bindUint64]
  split <;> simp

lemma sandboxFencedTx_ne_fenced {id : Identity} {validator : String} :
    sandboxFencedTx s id validator ≠ .error .replayFenced := by
  rw [sandboxFencedTx]
  split
  · simp
  · split <;> simp

/-- **A replay reads the row of its reservation.** When it answers, or finds a fence, the checks it shares with `Hold`
passed, and the rest of it is about that row.

**Proof sketch.** The checks in front of the row fail with errors of their own. The columns that are compared are
those of the reservation, so that the fence is looked up under its validator. -/
lemma replay_reads {result : Except StoreError (SandboxOutcome × LeaseStore)}
    (h : replayHeldReservation w s r now waited = result)
    (hresult : (∃ o s', result = .ok (o, s')) ∨ result = .error .replayFenced) :
    ∃ h fenced, Replayed w s r h fenced ∧
      result = if fenced then .error .replayFenced
        else if s.leaseOf r.identity ≠ none ∨ h.status = .committed ∨ h.status = .released then .error .replayNotHeld
        else if h.status = .expired ∨ h.holdExpiresAtNs ≤ now + waited then
          .ok (finish s (now + waited) { refused "hold_expired" with observedAt := some (now + waited) })
        else if h.status ≠ .held then .error .replayNotHeld
        else .ok (finish s (now + waited) { stage := .held, observedAt := some (now + waited) }) := by
  have hraised : ∀ e, e ≠ .replayFenced → result ≠ .error e := by
    rintro e hne rfl
    rcases hresult with ⟨o, s', ⟨⟩⟩ | heq
    exact hne (Except.error.inj heq)
  rw [replayHeldReservation] at h
  cases hchecked : check (r.validate w) with
  | error e =>
    rw [hchecked] at h
    exact absurd h.symm (hraised e fun he => check_ne_fenced (he ▸ hchecked))
  | ok u =>
    rw [hchecked] at h
    cases hdigest : digestOf (w.reservationDigest r) with
    | error e =>
      rw [hdigest] at h
      exact absurd h.symm (hraised e fun he => digestOf_ne_fenced (he ▸ hdigest))
    | ok digest =>
      rw [hdigest] at h
      cases hbound : bindUint64 r.generation with
      | error e =>
        rw [hbound] at h
        exact absurd h.symm (hraised e fun he => bindUint64_ne_fenced (he ▸ hbound))
      | ok u =>
        rw [hbound] at h
        simp only [bind, Except.bind] at h
        split at h
        · exact absurd h.symm (hraised _ (by simp))
        · rename_i row hrow
          split at h
          · exact absurd h.symm (hraised _ (by simp))
          · rename_i hcolumns
            simp only [ne_eq, not_or, not_not] at hcolumns
            obtain ⟨rfl, -, hvalidator, -⟩ := hcolumns
            cases hfence : sandboxFencedTx s r.identity row.validatorHotkey with
            | error e =>
              rw [hfence] at h
              exact absurd h.symm (hraised e fun he => sandboxFencedTx_ne_fenced (he ▸ hfence))
            | ok fenced =>
              rw [hfence] at h
              exact ⟨row, fenced, ⟨hchecked, hdigest, hbound, hrow, hvalidator ▸ hfence⟩, h.symm⟩

/-- **Replay agrees with `Hold`.** A replay changes no row, whatever it answers. When it answers held, `Hold` at the
time it observed answers held with the same capacities and changes no row either; when it answers that the hold
expired, so does `Hold`; and when it finds a fence, `Hold` answers that the reservation was released before use. -/
theorem replay_agrees_with_hold (w : Wire) (budget : Capacity) (s : LeaseStore) (r : SandboxReservationV1)
    (now waited : ℤ) :
    (serve w budget s (.replayHeldReservation r now waited)).1 = s ∧
      (∀ o s', replayHeldReservation w s r now waited = .ok (o, s') →
        (o.stage = .held → ∃ o', hold w budget s r (now + waited) = .ok (o', s) ∧
          o'.stage = .held ∧ o'.held = o.held ∧ o'.active = o.active) ∧
        (o.stage = .refused → o.errorCode = some "hold_expired" ∧
          ∃ o' s', hold w budget s r (now + waited) = .ok (o', s') ∧
            o'.stage = .refused ∧ o'.errorCode = some "hold_expired")) ∧
      (replayHeldReservation w s r now waited = .error .replayFenced →
        ∃ o', hold w budget s r (now + waited) = .ok (o', s) ∧
          o'.stage = .refused ∧ o'.errorCode = some "released_before_use") := by
  refine ⟨?_, ?_, ?_⟩
  · cases h : replayHeldReservation w s r now waited with
    | error e => rw [serve, h, settle]
    | ok answer =>
      obtain ⟨o, s'⟩ := answer
      rw [serve, h, settle, (replay_eq_ok h).1]
  · intro o s' hreplay
    obtain ⟨h, fenced, hread, hresult⟩ := replay_reads hreplay (Or.inl ⟨o, s', rfl⟩)
    cases fenced with
    | true => cases hresult
    | false =>
      have hhold := @Replayed.hold_eq w budget s r h false hread (now + waited)
      simp only [Bool.false_eq_true, if_false] at hresult hhold
      split at hresult
      · cases hresult
      · rename_i hopen
        simp only [ne_eq, not_or, not_not] at hopen
        obtain ⟨-, hcommitted, hreleased⟩ := hopen
        split at hresult
        · rename_i hexpired
          obtain ⟨rfl, rfl⟩ := Prod.mk.inj (Except.ok.inj hresult)
          -- the row is expired or past its time, so that `Hold` gives it up
          have hnot : ¬ (h.status = .committed ∨ h.status = .held ∧ now + waited < h.holdExpiresAtNs) := by
            rintro (hcommit | ⟨hheld, hlt⟩)
            · exact hcommitted hcommit
            · rcases hexpired with hexpired | hle
              · rw [hexpired] at hheld
                cases hheld
              · omega
          rw [if_neg hnot, if_neg hreleased] at hhold
          exact ⟨nofun, fun _ => ⟨rfl, _, _, hhold, rfl, rfl⟩⟩
        · rename_i hlive
          split at hresult
          · cases hresult
          · rename_i hheld
            obtain ⟨rfl, rfl⟩ := Prod.mk.inj (Except.ok.inj hresult)
            rw [not_or, not_le] at hlive
            rw [if_pos (Or.inr ⟨not_not.mp hheld, hlive.2⟩)] at hhold
            exact ⟨fun _ => ⟨_, hhold, rfl, rfl, rfl⟩, nofun⟩
  · intro hreplay
    obtain ⟨h, fenced, hread, hresult⟩ := replay_reads hreplay (Or.inr rfl)
    cases fenced with
    | true => exact ⟨_, hread.hold_eq (now + waited), rfl, rfl⟩
    | false =>
      -- without a fence a replay does not fail with one
      simp only [Bool.false_eq_true, if_false] at hresult
      repeat' split at hresult
      all_goals cases hresult

end Misscomputer.Durable
