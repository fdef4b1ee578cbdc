/-
# BondTrading.Portfolio.Confidentiality -- what one user's lots tell another

Lots of all users share the rows of `bond_instruments`, and the first user who stores a lot
of an ISIN gives the row its name.  Apart from that row, no answer about lots, settings or
imports depends on what somebody else stores.

* `answers_independent` -- two runs that differ in the requests of one user only: where he
  leaves the instruments of the others' ISINs alone, the others get the same answers;
* `typed_name_answered` -- where he does not, the text he typed is in their answers.
-/
import BondTrading.Portfolio.Agreement

namespace BondTrading

open Machines (Machine Entry)

/-! ## Two runs -/

/-- The events of everybody else. -/
def PortfolioEvent.isVisible (hidden : UserId) : PortfolioEvent → Bool
  | .request user _ _ => user.id ≠ hidden
  | .elsewhere _ _ => false

/-- **The condition on a step**: its identifiers are new, `hidden` leaves the instruments of
the ISINs alone, the others store lots under these ISINs only, and there is no refresh. -/
def Unshared (isins : List String) (hidden : UserId) (s : PortfolioState) : PortfolioEvent → Prop
  | .request user request draw =>
      s.DrawsFresh user.id draw request ∧
        if user.id = hidden then s.LeavesNames user.id draw isins request
        else ∀ isin ∈ s.lotIsins user.id draw request, isin ∈ isins
  | .elsewhere market _ => market = s.db.val.market

/-- The answer to a request of the user about lots, settings or an import. -/
def portfolioAnswer (user : UserId)
    (entry : Entry PortfolioState PortfolioEvent (Option ApiAnswer)) : Option ApiAnswer :=
  match entry.event with
  | .request u request _ =>
      if u.id = user ∧ request.isPortfolio = true then entry.response else none
  | .elsewhere _ _ => none

/-- All of them, in the order of the requests. -/
def answersTo (env : PortfolioEnv) (user : UserId) (s : PortfolioState)
    (events : List PortfolioEvent) : List ApiAnswer :=
  ((portfolioMachine env).history s events).filterMap (portfolioAnswer user)

/-- Everybody but `hidden` sees the same in both states. -/
structure AlikeBut (isins : List String) (hidden : UserId) (s s' : PortfolioState) : Prop where
  kept : s.Kept isins hidden
  kept' : s'.Kept isins hidden
  alike : ∀ other, other ≠ hidden → PortfolioState.Alike isins other s s'

/-! ## One step -/

section Step

variable {isins : List String} {hidden : UserId} {s s' : PortfolioState}

theorem AlikeBut.symm (h : AlikeBut isins hidden s s') : AlikeBut isins hidden s' s :=
  ⟨h.kept', h.kept, fun other hother => (h.alike other hother).symm⟩

/-- A request of `hidden` that leaves the names is seen by nobody else. -/
theorem AlikeBut.hidden_request (h : AlikeBut isins hidden s s') (env : PortfolioEnv)
    {user : CurrentUser} (huser : user.id = hidden) {draw : RequestDraw}
    {request : PortfolioRequest} (hfresh : s.DrawsFresh user.id draw request)
    (hleaves : s.LeavesNames user.id draw isins request) :
    AlikeBut isins hidden (s.handle env user draw request).1 s' := by
  refine ⟨PortfolioState.handle_kept h.kept env draw fun hne => absurd huser hne, h.kept', ?_⟩
  intro other hother
  have halike := h.alike other hother
  have hother : other ≠ user.id := huser.symm ▸ hother
  have hspares := (s.handle_spares h.kept.previews env user draw request).spares
  have hnamed := (PortfolioState.handle_wrote (s := s) env user draw request).named hleaves hfresh
  obtain ⟨hpreviews, httl⟩ := PortfolioState.handle_previews env hfresh hother
  refine ⟨?_, hpreviews.trans halike.previews, httl.trans halike.ttlSeconds⟩
  exact halike.db.of_owned (hnamed.trans halike.db.named) (hspares.portfolio other hother) rfl

/-- The others of a request that both states serve. -/
theorem AlikeBut.visible_request (h : AlikeBut isins hidden s s') (env : PortfolioEnv)
    {user : CurrentUser} (huser : user.id ≠ hidden) {draw : RequestDraw}
    {request : PortfolioRequest} (hfresh : s.DrawsFresh user.id draw request)
    (hfresh' : s'.DrawsFresh user.id draw request)
    (hisins : ∀ isin ∈ s.lotIsins user.id draw request, isin ∈ isins)
    (hisins' : ∀ isin ∈ s'.lotIsins user.id draw request, isin ∈ isins) :
    AlikeBut isins hidden (s.handle env user draw request).1 (s'.handle env user draw request).1 := by
  obtain ⟨hself, -⟩ := PortfolioState.handle_agrees (h.alike user.id huser) h.kept h.kept' huser env
    hisins hfresh hfresh'
  refine ⟨PortfolioState.handle_kept h.kept env draw fun _ => hisins,
    PortfolioState.handle_kept h.kept' env draw fun _ => hisins', fun other hother => ?_⟩
  by_cases hsame : other = user.id
  · rw [hsame]
    exact hself
  · -- the rows of the others stayed, and the instruments are the ones the user sees
    have halike := h.alike other hother
    have hspares := (s.handle_spares h.kept.previews env user draw request).spares
    have hspares' := (s'.handle_spares h.kept'.previews env user draw request).spares
    obtain ⟨hpreviews, httl⟩ := PortfolioState.handle_previews env hfresh hsame
    obtain ⟨hpreviews', httl'⟩ := PortfolioState.handle_previews env hfresh' hsame
    refine ⟨?_, hpreviews.trans (halike.previews.trans hpreviews'.symm),
      httl.trans (halike.ttlSeconds.trans httl'.symm)⟩
    exact halike.db.of_owned hself.db.named (hspares.portfolio other hsame)
      (hspares'.portfolio other hsame)

/-- The worker commits sheet tables, which nobody sees here. -/
theorem AlikeBut.elsewhere (h : AlikeBut isins hidden s s') {market : MarketTables}
    (hmarket : market = s.db.val.market) (sheets : SheetTables) :
    AlikeBut isins hidden (s.elsewhere market sheets) s' := by
  subst hmarket
  unfold PortfolioState.elsewhere
  split
  · rename_i db hcommit
    have hval := Sql.commit_eq_ok.mp hcommit
    have hseen {other : UserId} : SeenAlike isins other db.val s.db.val := by
      rw [hval]
      exact .of_tables rfl rfl rfl rfl
    refine ⟨⟨?_, ?_, ?_⟩, h.kept', fun other hother => ?_⟩
    · refine h.kept.previews.mono ?_ fun _ _ hvalue => hvalue
      rw [show db.val.portfolio = s.db.val.portfolio by rw [hval]]
      exact .refl _
    · show db.val.BatchesOwned
      rw [hval]
      exact h.kept.batches
    · intro other hother
      show db.val.Within isins other
      rw [hval]
      exact h.kept.lots other hother
    · have halike := h.alike other hother
      exact ⟨hseen.trans halike.db, halike.previews, halike.ttlSeconds⟩
  · exact h

end Step

/-! ## Whole runs -/

/-- Whatever happened since the database was created, every upload has a batch of its owner
or none. -/
theorem batchesOwned_reached (env : PortfolioEnv) (ttlSeconds : ℕ) (past : List PortfolioEvent) :
    (reached env Database.empty ttlSeconds past).db.val.BatchesOwned := by
  have hstep : ∀ s e, s.PreviewsOwned ∧ s.db.val.BatchesOwned →
      ((portfolioMachine env).next s e).PreviewsOwned ∧
        ((portfolioMachine env).next s e).db.val.BatchesOwned := by
    rintro s e ⟨hpreviews, hbatches⟩
    refine ⟨previewsOwned_next env s e hpreviews, ?_⟩
    cases e with
    | request user request draw =>
        have hserves := s.handle_spares hpreviews env user draw request
        exact (PortfolioState.handle_wrote (s := s) env user draw request).batchesOwned
          (s.handle env user draw request).1.db.property hpreviews hserves.spares.uploads hbatches
    | elsewhere market sheets =>
        show (s.elsewhere market sheets).db.val.BatchesOwned
        unfold PortfolioState.elsewhere
        split
        · rename_i db hcommit
          show db.val.BatchesOwned
          rw [Sql.commit_eq_ok.mp hcommit]
          exact hbatches
        · exact hbatches
  have hstart : (PortfolioState.started Database.empty ttlSeconds).PreviewsOwned ∧
      Database.empty.val.BatchesOwned :=
    ⟨PortfolioState.previewsOwned_started _ _, fun b hb => absurd hb List.not_mem_nil⟩
  exact ((portfolioMachine env).invariant_run hstep hstart past).2

/-- **Confidentiality.**  From any state the process can have reached, take two runs with the
same requests of everybody but `hidden`.  Where his steps leave the instruments of the others'
ISINs alone, every other user gets the same answers about lots, settings and imports. -/
theorem answers_independent (env : PortfolioEnv) (ttlSeconds : ℕ) (past : List PortfolioEvent)
    {isins : List String} {user hidden : UserId} (huser : user ≠ hidden)
    (hstart : ∀ other, other ≠ hidden →
      (reached env Database.empty ttlSeconds past).db.val.Within isins other)
    {events events' : List PortfolioEvent}
    (hsame : events.filter (PortfolioEvent.isVisible hidden) =
      events'.filter (PortfolioEvent.isVisible hidden))
    (halong : (portfolioMachine env).Along (Unshared isins hidden)
      (reached env Database.empty ttlSeconds past) events)
    (halong' : (portfolioMachine env).Along (Unshared isins hidden)
      (reached env Database.empty ttlSeconds past) events') :
    answersTo env user (reached env Database.empty ttlSeconds past) events =
      answersTo env user (reached env Database.empty ttlSeconds past) events' := by
  have hkept : (reached env Database.empty ttlSeconds past).Kept isins hidden :=
    ⟨previewsOwned_reached env _ _ past, batchesOwned_reached env _ past, hstart⟩
  refine ((portfolioMachine env).unwinding (R := AlikeBut isins hidden)
    (fun _ _ h => h.symm) ?_ ?_ ⟨hkept, hkept, fun _ _ => .refl _⟩ hsame halong halong').2
  · intro s t e h hhidden hG
    cases e with
    | request u request draw =>
        have hu : u.id = hidden := by simpa [PortfolioEvent.isVisible] using hhidden
        obtain ⟨hfresh, hG⟩ := hG
        rw [if_pos hu] at hG
        refine ⟨h.hidden_request env hu hfresh hG, if_neg ?_⟩
        exact fun hanswered => huser (hanswered.1.symm.trans hu)
    | elsewhere market sheets => exact ⟨h.elsewhere hG sheets, rfl⟩
  · intro s t e h hvisible hG hG'
    cases e with
    | request u request draw =>
        have hu : u.id ≠ hidden := by simpa [PortfolioEvent.isVisible] using hvisible
        obtain ⟨hfresh, hG⟩ := hG
        obtain ⟨hfresh', hG'⟩ := hG'
        rw [if_neg hu] at hG hG'
        refine ⟨h.visible_request env hu hfresh hfresh' hG hG', ?_⟩
        -- the answer counts only if the request is about the portfolio, and then it is the same
        obtain ⟨-, hanswer⟩ := PortfolioState.handle_agrees (h.alike u.id hu) h.kept h.kept' hu env
          hG hfresh hfresh'
        show (if u.id = user ∧ request.isPortfolio = true then _ else none) =
          if u.id = user ∧ request.isPortfolio = true then _ else none
        split
        · rename_i hanswered
          exact congrArg some (hanswer hanswered.2)
        · rfl
    | elsewhere market sheets => cases hvisible

/-! ## A name that was typed -/

/-- A lot of an ISIN under a name, or under none. -/
def namedLot (isin : String) (sourceName : Option String) : LotCreate where
  isin := isin
  sourceName := sourceName
  purchaseDate := 738000
  quantity := .finite 10
  purchaseCleanPriceRubPerBond := .finite 980
  purchaseAccruedInterestRubPerBond := .finite 12
  purchaseCommissionRubPerBond := .finite 0
  targetEventType := "maturity"
  targetEventDate := 739000
  targetRedemptionPriceRubPerBond := none
  targetRedemptionOverrideReason := none
  saleCommissionRubPerBond := .finite 0
  plannedYieldManualReference := none
  sourceRowNumber := none
  sourceSheetName := "manual"
  notes := none

/-- The names of the instruments in an answer. -/
def ApiAnswer.shortNames : ApiAnswer → List String
  | .lot row => [row.shortName]
  | .lots rows => rows.map LotOut.shortName
  | _ => []

def creates (user : UserId) (isin : String) (sourceName : Option String) (n : ℕ) :
    PortfolioEvent := .request ⟨user, .user⟩ (.createLot (namedLot isin sourceName)) (bareDraw n)

def lists (user : UserId) (n : ℕ) : PortfolioEvent :=
  .request ⟨user, .user⟩ .listLots (bareDraw n)

/-- **What user 2 typed is in the answer to user 1**, who created the same lot in both runs. -/
theorem typed_name_answered :
    let s := reached bareEnv Database.empty 1800 []
    let mine := creates 1 "RU000A107SX3" none 20
    let theirs := creates 2 "RU000A107SX3" (some "Client Petrov, pledged") 10
    [mine].filter (PortfolioEvent.isVisible 2) = [theirs, mine].filter (PortfolioEvent.isVisible 2) ∧
      (answersTo bareEnv 1 s [mine]).map ApiAnswer.shortNames = [["RU000A107SX3"]] ∧
      (answersTo bareEnv 1 s [theirs, mine]).map ApiAnswer.shortNames =
        [["Client Petrov, pledged"]] :=
  ⟨rfl, by decide +kernel, by decide +kernel⟩

/-- User 2 names an instrument that user 1 has no lot of. -/
theorem answers_independent_apart :
    let s := reached bareEnv Database.empty 1800 [creates 1 "RU000A107SX3" none 20]
    answersTo bareEnv 1 s [creates 2 "US0378331005" (some "Client Petrov, pledged") 30, lists 1 40] =
        answersTo bareEnv 1 s [lists 1 40] ∧
      (answersTo bareEnv 1 s [lists 1 40]).map ApiAnswer.shortNames = [["RU000A107SX3"]] := by
  intro s
  have hlots : ∀ l ∈ s.db.val.portfolio.lots, ∀ i ∈ s.db.val.market.instruments,
      i.id = l.instrumentId → i.isin ∈ ["RU000A107SX3"] := by decide +kernel
  have hlists {t : PortfolioState} : Unshared ["RU000A107SX3"] 2 t (lists 1 40) :=
    ⟨trivial, fun isin h => absurd h List.not_mem_nil⟩
  have hfresh : LotDraw.Fresh (bareDraw 30).lots s.db.val :=
    ⟨by decide +kernel, by decide +kernel, by decide +kernel⟩
  have hleaves : ∀ isin ∈ (normalizeIsin "US0378331005").toOption, isin ∈ ["RU000A107SX3"] →
      s.db.val.market.instrumentOf isin ≠ none := by decide +kernel
  have hcreates : Unshared ["RU000A107SX3"] 2 s
      (creates 2 "US0378331005" (some "Client Petrov, pledged") 30) :=
    ⟨hfresh, (if_pos rfl).mpr hleaves⟩
  refine ⟨?_, by decide +kernel⟩
  exact answers_independent bareEnv 1800 [creates 1 "RU000A107SX3" none 20] (by decide)
    (fun _ _ l hl _ => hlots l hl) rfl ⟨hcreates, hlists, trivial⟩ ⟨hlists, trivial⟩

end BondTrading
