import TestSelection.Proofs.Duration
import TestSelection.Proofs.Manifest.Validation
import TestSelection.Proofs.Probe.Attempt

/-!
# How long the external probe can take

The worst case of some probe settings is their timeout once for each address, up to the greatest number of
addresses that is counted and up to the greatest span (`toNanos_worstCase`). Below these two the probe makes
no attempts that may take longer in all, whatever comes of each, and just as long when nothing is reached.
-/
namespace TestSelection

/-! ## The attempts of a probe -/

namespace SocketAttempt

/-- How long an attempt may take, in nanoseconds; a port is bound at once. -/
def limit : SocketAttempt → Nat
  | bind _ => 0
  | connect _ timeout => timeout.toNanos

/-- How long some attempts may take, one after another. -/
def totalLimit : List SocketAttempt → Nat
  | [] => 0
  | a :: rest => a.limit + totalLimit rest

theorem totalLimit_connects (timeout : Duration) (endpoints : List Endpoint) :
    totalLimit (endpoints.map (.connect · timeout)) = timeout.toNanos * endpoints.length := by
  induction endpoints with
  | nil => rfl
  | cons e rest ih =>
      rw [List.map_cons, totalLimit, ih, List.length_cons, Nat.mul_succ, Nat.add_comm]
      rfl

end SocketAttempt

open SocketAttempt

namespace SocketOutcomes.FirstReached

variable {o : SocketOutcomes} {timeout : Duration} {n : Nat} {endpoints : List Endpoint}
  {reached : Option Endpoint} {tried : List SocketAttempt}

theorem totalLimit_le (h : o.FirstReached timeout n endpoints reached tried) :
    totalLimit tried ≤ timeout.toNanos * endpoints.length := by
  cases h with
  | @found front back e hsplit _ _ =>
      have hlength : (front ++ [e]).length ≤ endpoints.length := by
        simp [hsplit]
      rw [totalLimit_connects]
      exact Nat.mul_le_mul_left _ hlength
  | missed _ => exact Nat.le_of_eq (totalLimit_connects timeout endpoints)

theorem totalLimit_eq (h : o.FirstReached timeout n endpoints none tried) :
    totalLimit tried = timeout.toNanos * endpoints.length := by
  cases h with
  | missed _ => exact totalLimit_connects timeout endpoints

end SocketOutcomes.FirstReached

/-! ## The worst case -/

namespace ProbeSettings

variable {s : ProbeSettings}

/-- How many addresses are counted. -/
def counted (s : ProbeSettings) : Nat :=
  min s.externalAddresses.length (UInt32.size - 1)

theorem counted_of_lt (h : s.externalAddresses.length < UInt32.size) :
    s.counted = s.externalAddresses.length :=
  Nat.min_eq_left (Nat.le_sub_one_of_lt h)

theorem worstCase_eq_getD (s : ProbeSettings) :
    s.worstCase = (s.connectTimeout.checkedMul s.counted.toUInt32).getD .greatest := by
  have hlt : s.counted < UInt32.size := Nat.lt_of_le_of_lt (Nat.min_le_right _ _) (by decide)
  have hword : s.counted.toUInt32.toNat = s.counted := UInt32.toNat_ofNat_of_lt' hlt
  rw [← Duration.saturatingMul_eq_getD, hword]
  rfl

theorem toNanos_worstCase_of_ne_greatest (hlt : s.externalAddresses.length < UInt32.size)
    (h : s.worstCase ≠ .greatest) :
    s.worstCase.toNanos = s.connectTimeout.toNanos * s.endpoints.length := by
  have hworst : s.worstCase.toNanos =
      min (s.connectTimeout.toNanos * s.counted) Duration.greatest.toNanos :=
    Duration.toNanos_saturatingMul _ _
  have hne : s.worstCase.toNanos ≠ Duration.greatest.toNanos := fun he =>
    h (Duration.toNanos_injective he)
  rw [endpoints, List.length_map, ← counted_of_lt hlt]
  omega

/-- The worst case is the timeout once for each counted address, or the greatest span if that is shorter. It
is what words of 64 bits make of it, and longer timeouts or more addresses do not shorten it. Unless it is the
greatest span, or addresses are not counted, no run of the probe makes attempts that may take longer, and one
that reaches nothing makes attempts that may take just as long. Of settings that can be probed, the timeout is
taken over to the millisecond. -/
theorem toNanos_worstCase :
    (∀ s : ProbeSettings,
      s.worstCase.toNanos = min
        (s.connectTimeout.toNanos * min s.externalAddresses.length (UInt32.size - 1))
        Duration.greatest.toNanos ∧
      s.worstCase.nanos < 1_000_000_000 ∧
      s.worstCase = (s.connectTimeout.checkedMul s.counted.toUInt32).getD .greatest ∧
      (∀ s' : ProbeSettings, s.connectTimeout.toNanos ≤ s'.connectTimeout.toNanos →
        s.externalAddresses.length ≤ s'.externalAddresses.length →
          s.worstCase.toNanos ≤ s'.worstCase.toNanos) ∧
      (s.externalAddresses.length < UInt32.size → s.worstCase ≠ .greatest →
        ∀ {m : Type → Type} [Monad m] [LawfulMonad m] (log : LogEvent → m Unit) (o : SocketOutcomes)
          (record : List SocketAttempt), ∃ reached tried,
            o.FirstReached s.connectTimeout (connects record) s.endpoints reached tried ∧
            Tries log (Probe.externalNetwork o.sockets (fun e => liftM (log e)) s) record reached
              tried ∧
            totalLimit tried ≤ s.worstCase.toNanos ∧
            (reached = none → totalLimit tried = s.worstCase.toNanos))) ∧
    ∀ n : NetworkSettings, ((∃ s, ofNetwork (some n) = .ok s) ↔ n.IsUsable) ∧
      ∀ s, ofNetwork (some n) = .ok s →
        s.connectTimeout.toNanos = n.connectTimeout.toNat * 1_000_000 ∧
        s.externalAddresses = n.externalAddresses ∧
        s.worstCase.toNanos = min
          (n.connectTimeout.toNat * 1_000_000 * min n.externalAddresses.length (UInt32.size - 1))
          Duration.greatest.toNanos := by
  have hproduct (s : ProbeSettings) : s.worstCase.toNanos = min
      (s.connectTimeout.toNanos * min s.externalAddresses.length (UInt32.size - 1))
      Duration.greatest.toNanos := Duration.toNanos_saturatingMul _ _
  refine ⟨fun s => ⟨hproduct s, s.worstCase.nanos_lt, s.worstCase_eq_getD, fun s' ht ha => ?_,
    fun hlt h m _ _ log o record => ?_⟩, fun n => ⟨?_, fun s h => ?_⟩⟩
  · exact Duration.saturatingMul_le ht (by omega)
  · obtain ⟨reached, tried, hreached, htries⟩ := o.tries_externalNetwork record log s
    have hworst := toNanos_worstCase_of_ne_greatest hlt h
    refine ⟨reached, tried, hreached, htries, hworst ▸ hreached.totalLimit_le, ?_⟩
    rintro rfl
    rw [hworst, hreached.totalLimit_eq]
  · constructor
    · rintro ⟨s, h⟩
      obtain ⟨_, hvalid, -⟩ := bind_eq_ok_iff.mp h
      exact NetworkSettings.validate_eq_ok_iff.mp hvalid
    · intro h
      exact exists_ofNetwork_eq_ok (NetworkSettings.validate_eq_ok_iff.mpr h)
  · obtain ⟨first, second, -, rfl⟩ := ofNetwork_some h
    have htimeout := Duration.toNanos_ofMillis n.connectTimeout
    exact ⟨htimeout, rfl, htimeout ▸ hproduct _⟩

/-- The seconds of two thousand timeouts fit in a word, and it is their nanoseconds that do not. The longest
timeout fits once for each of a thousand addresses. -/
theorem toNanos_worstCase_carry :
    let a : Address := .v4 10 0 0 1
    let settings (addresses : Nat) (timeout : UInt64) : NetworkSettings :=
      { externalAddresses := .replicate addresses a, connectTimeout := timeout }
    let probes (addresses : Nat) (timeout : UInt64) : ProbeSettings :=
      ⟨standardPorts, .replicate addresses a, standardPort, .ofMillis timeout⟩
    let wide := probes 2000 9223372036854775999
    let longest := probes 1000 18446744073709551615
    let log : LogEvent → Id Unit := fun _ => ()
    let refuse : SocketOutcomes := ⟨fun _ _ => .error "refused", fun _ _ => .error "refused"⟩
    ofNetwork (some (settings 2000 9223372036854775999)) = .ok wide ∧
      ofNetwork (some (settings 1000 18446744073709551615)) = .ok longest ∧
      wide.connectTimeout.seconds * 2000 < UInt64.size ∧
      wide.worstCase.toNanos = Duration.greatest.toNanos ∧
      longest.worstCase.toNanos = 18446744073709551615 * 1_000_000_000 ∧
      wide.connectTimeout.toNanos ≤ longest.connectTimeout.toNanos ∧
      (probes 1000 9223372036854775999).worstCase.toNanos ≤ longest.worstCase.toNanos ∧
      longest.worstCase ≠ .greatest ∧
      ∃ reached tried,
        Tries log (Probe.externalNetwork refuse.sockets (fun e => liftM (log e)) longest) [] reached
          tried ∧
        totalLimit tried ≤ longest.worstCase.toNanos := by
  intro a settings probes wide longest log refuse
  obtain ⟨hprobes, hnetwork⟩ := toNanos_worstCase
  have hwide : ofNetwork (some (settings 2000 9223372036854775999)) = .ok wide := rfl
  have hlongest : ofNetwork (some (settings 1000 18446744073709551615)) = .ok longest := rfl
  have hcount (addresses : Nat) (timeout : UInt64) :
      (settings addresses timeout).externalAddresses.length = addresses := List.length_replicate
  have hlength : longest.externalAddresses.length = 1000 := List.length_replicate
  have hworst := ((hnetwork _).2 _ hwide).2.2
  have hworst' := ((hnetwork _).2 _ hlongest).2.2
  rw [hcount] at hworst hworst'
  have hgreatest : longest.worstCase ≠ .greatest := by
    intro h
    rw [h] at hworst'
    exact absurd hworst' (by decide)
  obtain ⟨-, -, -, hmono, -⟩ := hprobes (probes 1000 9223372036854775999)
  obtain ⟨-, -, -, -, hattempts⟩ := hprobes longest
  obtain ⟨reached, tried, -, htries, hle, -⟩ :=
    hattempts (by rw [hlength]; decide) hgreatest log refuse []
  refine ⟨hwide, hlongest, by decide, hworst.trans (by decide), hworst'.trans (by decide), by decide,
    hmono longest (by decide) (Nat.le_refl _), hgreatest, reached, tried, htries, hle⟩

end ProbeSettings

end TestSelection
