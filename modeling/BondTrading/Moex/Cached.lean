/-
# BondTrading.Moex.Cached -- what the client remembers

A refresh that is not forced may be answered with the result of an earlier one.  Refreshes of
one ISIN overlap, fail and finish in any order; the answer is the one that finished last, and
it is given for `market_ttl_seconds` from its finish.
-/
import BondTrading.Machines.Registers
import BondTrading.Moex.Calls

namespace BondTrading.Moex

open Py (Decimal Dict Instant Json)
open Machines (Machine Entry Since)

namespace MoexIssClient

variable (client : MoexIssClient)

/-- The line is the end of a refresh of this ISIN: when, and with which result. -/
def finished (isin : String) (x : Entry ClientState ClientEvent Reply) :
    Option (ℚ × MoexRefreshResult Decimal) :=
  match x.event with
  | .resume t wall monotonic =>
      match client.conclude x.before t wall with
      | some (other, _, .ok result) => if other = isin then some (monotonic, result) else none
      | _ => none
  | _ => none

variable {client}

theorem finished_eq_some {isin : String} {x : Entry ClientState ClientEvent Reply} {finish : ℚ}
    {result : MoexRefreshResult Decimal} (h : client.finished isin x = some (finish, result)) :
    ∃ found payloads wall, client.mapParts isin found payloads wall = .ok result := by
  unfold finished at h
  split at h
  · rename_i t wall monotonic hevent
    split at h
    · rename_i other progress answer hconclude
      split at h
      · rename_i hsame
        obtain ⟨-, rfl⟩ := Prod.mk.inj (Option.some.inj h)
        obtain ⟨found, parts, failed, payloads, -, -, -, houtcome⟩ := conclude_eq_some hconclude
        obtain ⟨payloads, -, hmap⟩ := Py.bind_eq_ok.mp houtcome.symm
        exact ⟨found, payloads, wall, hsame ▸ hmap⟩
      · cases h
    · cases h
  · cases h

/-- What the end of a refresh puts into the cache. -/
def kept (client : MoexIssClient) (end_ : ℚ × MoexRefreshResult Decimal) :
    ℚ × MoexRefreshResult Decimal :=
  (end_.1 + client.settings.marketTtlSeconds, end_.2)

theorem kept_injective (client : MoexIssClient) : Function.Injective client.kept := by
  intro end_ end' h
  obtain ⟨hfinish, hresult⟩ := Prod.mk.inj h
  exact Prod.ext (add_right_cancel hfinish) hresult

theorem conclude_of_gathered (client : MoexIssClient) {s : ClientState} {t : ℕ} {isin : String} {found : Found}
    {parts : Part → Fetch} {failed : Option ClientError}
    {payloads : Except ClientError (Part → Payload)}
    (htask : s.tasks[t]? = some ⟨.gathering isin found parts failed, none⟩)
    (hgathered : gathered parts failed = some payloads) (wall : Instant) :
    client.conclude s t wall = some (isin, .gathering isin found parts failed,
      payloads >>= fun payloads => client.mapParts isin found payloads wall) := by
  unfold conclude
  rw [htask]
  dsimp only
  rw [hgathered]
  rfl

/-- A step writes the result of a refresh that it ends. -/
theorem Moves.cache {s s' : ClientState} {e : ClientEvent} {reply : Reply}
    (h : client.Moves s e s' reply) (isin : String) :
    s'.cache.get? isin =
      ((client.finished isin ⟨s, e, reply⟩).map client.kept).or (s.cache.get? isin) := by
  cases h with
  | @resumes t wall monotonic other found parts failed payloads htask hgathered outcome houtcome =>
      have hconclude := conclude_of_gathered client htask hgathered wall
      rw [← houtcome] at hconclude
      unfold finished
      dsimp only
      rw [hconclude]
      cases outcome with
      | error error => rfl
      | ok result =>
          show (s.cache.set other (monotonic + client.settings.marketTtlSeconds, result)).get? isin = _
          rw [Dict.get?_set]
          by_cases hsame : isin = other
          · rw [if_pos hsame]
            dsimp only
            rw [if_pos hsame.symm]
            rfl
          · rw [if_neg hsame]
            dsimp only
            rw [if_neg (Ne.symm hsame)]
            rfl
  | _ => rfl

theorem finished_of_disabled {s : ClientState} {e : ClientEvent} (h : ¬ client.Enabled s e)
    (isin : String) (reply : Reply) : client.finished isin ⟨s, e, reply⟩ = none := by
  cases e with
  | resume t wall monotonic =>
      unfold finished
      dsimp only
      cases hconclude : client.conclude s t wall with
      | none => rfl
      | some next =>
          refine absurd ?_ h
          simp [Enabled, step?, hconclude]
  | _ => rfl

theorem cache_next (client : MoexIssClient) (s : ClientState) (e : ClientEvent) (isin : String) :
    (client.clientMachine.next s e).cache.get? isin =
      ((client.finished isin (client.clientMachine.entry s e)).map client.kept).or
        (s.cache.get? isin) := by
  rcases clientMachine_step client s e with ⟨hdisabled, hstep⟩ | hmoves
  · have hnone := finished_of_disabled hdisabled isin (client.clientMachine.step s e).2
    show (client.clientMachine.step s e).1.cache.get? isin =
      ((client.finished isin ⟨s, e, (client.clientMachine.step s e).2⟩).map client.kept).or _
    rw [hnone, hstep]
    rfl
  · exact hmoves.cache isin

/-- What the client holds for an ISIN is what the refresh that finished last brought. -/
theorem cache_iff_since (client : MoexIssClient) (es : List ClientEvent) (isin : String)
    (end_ : ℚ × MoexRefreshResult Decimal) :
    (client.clientMachine.run client.start es).cache.get? isin = some (client.kept end_) ↔
      Since (fun x => client.finished isin x = some end_)
        (fun x => client.finished isin x ≠ none)
        (client.clientMachine.history client.start es) := by
  have hrule := client.clientMachine.eq_some_iff_since (fun s => s.cache.get? isin)
    (fun x => (client.finished isin x).map client.kept) (fun s e => cache_next client s e isin)
    (s := client.start) rfl es (client.kept end_)
  simpa only [Option.map_eq_some_iff, (kept_injective client).eq_iff, exists_eq_right, ne_eq,
    Option.map_eq_none_iff] using hrule

/-- Everything the client holds was kept by some end. -/
theorem exists_kept (client : MoexIssClient) (cached : ℚ × MoexRefreshResult Decimal) :
    ∃ end_, client.kept end_ = cached :=
  ⟨(cached.1 - client.settings.marketTtlSeconds, cached.2),
    Prod.ext (sub_add_cancel _ _) rfl⟩

theorem step?_refresh (client : MoexIssClient) (s : ClientState) (isin : String) (force : Bool)
    (monotonic : ℚ) :
    client.step? s (.refresh isin force monotonic) = some (s.begin isin force monotonic) := by
  unfold step?
  rfl

theorem step_refresh (client : MoexIssClient) (s : ClientState) (isin : String) (force : Bool)
    (monotonic : ℚ) :
    client.clientMachine.step s (.refresh isin force monotonic) =
      s.begin isin force monotonic := by
  unfold clientMachine
  simp only [step?_refresh, Option.getD_some]

/-- A refresh is answered at once with a result from the cache. -/
theorem begin_eq_some {s : ClientState} {isin : String} {force : Bool} {monotonic : ℚ}
    {result : MoexRefreshResult Decimal} :
    (s.begin isin force monotonic).2 = some (.ok (.refreshed result)) ↔
      ∃ asked, normalized isin = .ok asked ∧ s.cached asked force monotonic = some result := by
  unfold ClientState.begin
  cases normalized isin with
  | error error => simp
  | ok asked =>
      dsimp only
      cases hcached : s.cached asked force monotonic with
      | none => simp [hcached]
      | some other => simp [hcached]

theorem cached_eq_some {s : ClientState} {asked : String} {force : Bool} {monotonic : ℚ}
    {result : MoexRefreshResult Decimal} :
    s.cached asked force monotonic = some result ↔
      force = false ∧ ∃ expires, s.cache.get? asked = some (expires, result) ∧
        monotonic < expires := by
  unfold ClientState.cached
  rw [Option.map_eq_some_iff]
  constructor
  · rintro ⟨⟨expires, other⟩, hfilter, rfl⟩
    obtain ⟨hcached, hfresh⟩ := Option.filter_eq_some_iff.mp hfilter
    obtain ⟨hforce, hexpires⟩ := of_decide_eq_true hfresh
    exact ⟨Bool.not_eq_true _ ▸ hforce, expires, hcached, hexpires⟩
  · rintro ⟨rfl, expires, hcached, hexpires⟩
    refine ⟨(expires, result), Option.filter_eq_some_iff.mpr ⟨hcached, ?_⟩, rfl⟩
    exact decide_eq_true ⟨Bool.false_ne_true, hexpires⟩

/-- **What is answered at once.**  A call of `refresh` is answered with a result at once exactly
when it is not forced and the refresh of its ISIN that finished last brought this result less
than `market_ttl_seconds` ago; and the result is one of the ISIN asked for. -/
theorem answered_at_once_iff (client : MoexIssClient) (es : List ClientEvent) (isin : String)
    (force : Bool) (monotonic : ℚ) (result : MoexRefreshResult Decimal) :
    ((client.clientMachine.step (client.clientMachine.run client.start es)
        (.refresh isin force monotonic)).2 = some (.ok (.refreshed result)) ↔
      force = false ∧ ∃ asked finish, normalized isin = .ok asked ∧
        Since (fun x => client.finished asked x = some (finish, result))
          (fun x => client.finished asked x ≠ none)
          (client.clientMachine.history client.start es) ∧
        monotonic < finish + client.settings.marketTtlSeconds) ∧
    ((client.clientMachine.step (client.clientMachine.run client.start es)
        (.refresh isin force monotonic)).2 = some (.ok (.refreshed result)) →
      normalizeIsin isin = .ok result.instrument.isin) := by
  rw [step_refresh, begin_eq_some]
  constructor
  · constructor
    · rintro ⟨asked, hasked, hcached⟩
      obtain ⟨hforce, expires, hkept, hexpires⟩ := cached_eq_some.mp hcached
      obtain ⟨⟨finish, other⟩, hend⟩ := exists_kept client (expires, result)
      obtain ⟨rfl, rfl⟩ := Prod.mk.inj hend
      rw [← hend, cache_iff_since] at hkept
      exact ⟨hforce, asked, finish, hasked, hkept, hexpires⟩
    · rintro ⟨hforce, asked, finish, hasked, hlast, hfresh⟩
      refine ⟨asked, hasked, cached_eq_some.mpr ⟨hforce, _, ?_, hfresh⟩⟩
      exact (cache_iff_since client es asked (finish, result)).mpr hlast
  · rintro ⟨asked, hasked, hcached⟩
    obtain ⟨-, expires, hkept, -⟩ := cached_eq_some.mp hcached
    obtain ⟨⟨finish, other⟩, hend⟩ := exists_kept client (expires, result)
    obtain ⟨-, rfl⟩ := Prod.mk.inj hend
    rw [← hend, cache_iff_since] at hkept
    obtain ⟨x, -, hfinished⟩ := hkept.mem
    obtain ⟨found, payloads, wall, hmap⟩ := finished_eq_some hfinished
    have hnormal : normalizeIsin isin = .ok asked := (Py.mapError_eq_ok MapperError.domain).mp hasked
    have hresult := mapRefreshResult_isin _ _ _ _ _ _ _ _ _ _
      ((Py.mapError_eq_ok ClientError.mapper).mp hmap)
    rw [hnormal, ← normalizeIsin_idem hnormal]
    exact hresult

end MoexIssClient

end BondTrading.Moex
