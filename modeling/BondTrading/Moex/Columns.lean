/-
# BondTrading.Moex.Columns -- the order of the columns does not matter

MOEX may list the columns of a block in any order.  The rows of a reordered block are the same
mappings, and whatever the mapper computes from a row it computes from the mapping.
-/
import BondTrading.Moex.Mapper
import BondTrading.Orders.Reordered
import BondTrading.Py.Outcome

namespace BondTrading.Moex

open Py (Agrees Decimal Dict Instant Json)
open Orders (reordered reordered_map reordered_zip reordered_perm filterMap_of_forall₂
  find?_of_forall₂ head?_of_forall₂ getD_of_rel)

/-! ## Reordered payloads -/

/-- The same block, or one with its columns and every row of it in a new order: the columns
are distinct names, and the rows are as long. -/
inductive BlockReordered : Option Json → Option Json → Prop
  | same (block : Option Json) : BlockReordered block block
  | columns {table table' : List (String × Json)} {names : List String} {rows : List (List Json)}
      {order : List ℕ}
      (columns : table.lookup "columns" = some (.array (names.map .string)))
      (data : table.lookup "data" = some (.array (rows.map .array)))
      (distinct : names.Nodup) (width : ∀ row ∈ rows, row.length = names.length)
      (permutes : order.Perm (List.range names.length))
      (columns' : table'.lookup "columns" = some (.array ((reordered order names).map .string)))
      (data' : table'.lookup "data" =
        some (.array ((rows.map (reordered order)).map .array))) :
      BlockReordered (some (.object table)) (some (.object table'))

/-- A payload some of whose blocks are reordered. -/
def Reordered (blocks : List String) (payload payload' : Payload) : Prop :=
  ∀ block ∈ blocks, BlockReordered (payload.get? block) (payload'.get? block)

/-- The hash of a row depends only on the mapping. -/
def Library.HashesMappings (library : Library) : Prop :=
  ∀ row row' : Row, row.Same row' → library.payloadHash row = library.payloadHash row'

/-! ## Rows -/

/-- The row of a block whose columns are names. -/
def rowOf (names : List String) (rawRow : List Json) : Row :=
  Dict.ofList ((names.map Json.Key.text).zip rawRow)

theorem foldlM_assign (row : Row) (names : List String) (rawRow : List Json) :
    ((names.map Json.string).zip rawRow).foldlM assign row =
      .ok (row.update ((names.map Json.Key.text).zip rawRow)) := by
  induction names generalizing row rawRow with
  | nil => rfl
  | cons name names ih =>
      cases rawRow with
      | nil => rfl
      | cons value rawRow => exact ih (row.set (.text name) value) rawRow

theorem mapM_tableRow (block : String) (names : List String) (rows : List (List Json)) :
    (rows.map Json.array).mapM (tableRow block (names.map .string)) =
      .ok (rows.map (rowOf names)) := by
  induction rows with
  | nil => rfl
  | cons rawRow rows ih =>
      have hrow : tableRow block (names.map .string) (.array rawRow) = .ok (rowOf names rawRow) :=
        foldlM_assign Dict.empty names rawRow
      rw [List.map_cons, List.mapM_cons, hrow, Py.ok_bind, ih]
      rfl

theorem tableRows_of_table {payload : Payload} {block : String} {table : List (String × Json)}
    {names : List String} {rows : List (List Json)}
    (hblock : payload.get? block = some (.object table))
    (hcolumns : table.lookup "columns" = some (.array (names.map .string)))
    (hdata : table.lookup "data" = some (.array (rows.map .array))) :
    tableRows payload block = .ok (rows.map (rowOf names)) := by
  unfold tableRows
  rw [hblock]
  dsimp only
  rw [hcolumns, hdata]
  exact mapM_tableRow block names rows

/-- **A reordered row is the same mapping.** -/
theorem rowOf_reordered {names : List String} {rawRow : List Json} {order : List ℕ}
    (hdistinct : names.Nodup) (hwidth : rawRow.length = names.length)
    (horder : order.Perm (List.range names.length)) :
    (rowOf names rawRow).Same (rowOf (reordered order names) (reordered order rawRow)) := by
  have hlength : (names.map Json.Key.text).length = rawRow.length := by
    rw [List.length_map, hwidth]
  have hinjective : Function.Injective Json.Key.text := fun _ _ h => Json.Key.text.inj h
  have hkeys : (((names.map Json.Key.text).zip rawRow).map Prod.fst).Nodup := by
    rw [List.map_fst_zip hlength.le]
    exact hdistinct.map hinjective
  have hpermuted : (reordered order ((names.map Json.Key.text).zip rawRow)).Perm
      ((names.map Json.Key.text).zip rawRow) := by
    apply reordered_perm
    rw [List.length_zip, hlength, hwidth, Nat.min_self]
    exact horder
  have hzip : ((reordered order names).map Json.Key.text).zip (reordered order rawRow) =
      reordered order ((names.map Json.Key.text).zip rawRow) := by
    rw [← reordered_map, reordered_zip order hlength]
  apply Dict.Same.of_perm
  unfold rowOf
  rw [hzip, Dict.entries_ofList hkeys,
    Dict.entries_ofList ((hpermuted.map Prod.fst).nodup_iff.mpr hkeys)]
  exact hpermuted.symm

/-- **The rows of a reordered block** are the same mappings, one by one. -/
theorem tableRows_reordered {blocks : List String} {payload payload' : Payload}
    (h : Reordered blocks payload payload') {block : String} (hblock : block ∈ blocks) :
    Agrees (List.Forall₂ Dict.Same) (tableRows payload block) (tableRows payload' block) := by
  have hreordered := h block hblock
  generalize hfound : payload.get? block = found at hreordered
  generalize hfound' : payload'.get? block = found' at hreordered
  cases hreordered with
  | same =>
      have hsame : tableRows payload block = tableRows payload' block := by
        unfold tableRows
        rw [hfound, hfound']
      rw [hsame]
      exact Agrees.refl fun rows => List.forall₂_same.mpr fun _ _ _ => rfl
  | columns columns data distinct width permutes columns' data' =>
      rw [tableRows_of_table hfound columns data, tableRows_of_table hfound' columns' data']
      refine .ok ?_
      rw [List.map_map, List.forall₂_map_left_iff, List.forall₂_map_right_iff, List.forall₂_same]
      intro rawRow hrow
      exact rowOf_reordered distinct (width rawRow hrow) permutes

/-! ## What the mapper computes from rows -/

section Steps

variable {blocks : List String} {payload payload' : Payload} {library : Library}
  {row row' : Row} {rows rows' : List Row}

/-- `row.get` of equal mappings. -/
theorem Row.get_same (h : row.Same row') : row.get = row'.get := by
  funext name
  unfold Row.get
  rw [h]

theorem isMatch_same (normalizedIsin : String) (h : row.Same row') :
    isMatch normalizedIsin row = isMatch normalizedIsin row' := by
  unfold isMatch
  rw [Row.get_same h]

theorem findExactSecurity_reordered (h : Reordered blocks payload payload')
    (hblock : "securities" ∈ blocks) (isin : String) :
    Agrees Dict.Same (findExactSecurity payload isin) (findExactSecurity payload' isin) := by
  apply Agrees.bind_same
  intro normalizedIsin
  apply (tableRows_reordered h hblock).bind
  intro rows rows' hrows
  have hmatches : List.Forall₂ Dict.Same (rows.filter (isMatch normalizedIsin))
      (rows'.filter (isMatch normalizedIsin)) := by
    refine List.rel_filter ?_ hrows
    intro row row' hsame
    exact iff_of_eq (congrArg (· = true) (isMatch_same normalizedIsin hsame))
  generalize rows.filter (isMatch normalizedIsin) = found at hmatches ⊢
  generalize rows'.filter (isMatch normalizedIsin) = found' at hmatches ⊢
  cases hmatches with
  | nil => exact .error _
  | cons hfirst hothers =>
      refine .ok (getD_of_rel ?_ hfirst)
      refine find?_of_forall₂ (.cons hfirst hothers) fun row row' hsame => ?_
      rw [Row.get_same hsame]

theorem secidOf_same (h : row.Same row') (descriptions : Dict String Json) :
    secidOf row descriptions = secidOf row' descriptions := by
  unfold secidOf
  rw [Row.get_same h]

theorem mapInstrument_same {searchRow searchRow' securityRow securityRow' marketRow marketRow' : Row}
    (hsearch : searchRow.Same searchRow') (hsecurity : securityRow.Same securityRow')
    (hmarket : marketRow.Same marketRow') (timezone : LocalZone) (now : Instant)
    (isin secid : String) (descriptions : Dict String Json)
    (initialFace currentFace : Option Decimal) :
    mapInstrument library timezone now isin secid searchRow securityRow marketRow descriptions
        initialFace currentFace =
      mapInstrument library timezone now isin secid searchRow' securityRow' marketRow' descriptions
        initialFace currentFace := by
  unfold mapInstrument
  rw [Row.get_same hsearch, Row.get_same hsecurity, Row.get_same hmarket]

theorem firstRow_reordered (h : Reordered blocks payload payload') {block : String}
    (hblock : block ∈ blocks) :
    Agrees (Option.Rel Dict.Same) (firstRow payload block) (firstRow payload' block) :=
  (tableRows_reordered h hblock).map fun _ _ hrows => head?_of_forall₂ hrows

theorem descriptionValues_reordered (h : Reordered blocks payload payload')
    (hblock : "description" ∈ blocks) : descriptionValues payload = descriptionValues payload' := by
  apply (tableRows_reordered h hblock).bind_eq
  intro rows rows' hrows
  have hpairs := filterMap_of_forall₂ hrows
    (f := fun row : Row => if (row.get "name").truthy then
      some ((row.get "name").str, row.get "value") else none)
    (g := fun row : Row => if (row.get "name").truthy then
      some ((row.get "name").str, row.get "value") else none)
    fun row row' hsame => by rw [Row.get_same hsame]
  rw [hpairs]

theorem firstInitialFace_same (h : List.Forall₂ Dict.Same rows rows') :
    firstInitialFace rows = firstInitialFace rows' := by
  induction h with
  | nil => rfl
  | cons hsame _ ih =>
      unfold firstInitialFace
      rw [Row.get_same hsame, ih]

theorem initialFaceValue_reordered (h : Reordered blocks payload payload')
    (hcoupons : "coupons" ∈ blocks) (hamortizations : "amortizations" ∈ blocks) :
    initialFaceValue payload = initialFaceValue payload' := by
  apply (tableRows_reordered h hcoupons).bind_eq
  intro rows rows' hrows
  rw [firstInitialFace_same hrows]
  congr 1
  funext value
  cases value with
  | some value => rfl
  | none =>
      apply (tableRows_reordered h hamortizations).bind_eq
      intro rows rows' hrows
      exact firstInitialFace_same hrows

theorem action_same (hhash : library.HashesMappings) (h : row.Same row')
    (actionType : ActionType) (eventDate : Date) (recordDateField : Option String) :
    action library actionType eventDate row recordDateField =
      action library actionType eventDate row' recordDateField := by
  unfold action
  rw [Row.get_same h, hhash row row' h]

theorem eventActions_same (hhash : library.HashesMappings)
    (h : List.Forall₂ Dict.Same rows rows') (dateField : String) {actionType : Row → ActionType}
    (htype : ∀ row row' : Row, row.Same row' → actionType row = actionType row')
    (recordDateField : Option String) :
    eventActions library dateField actionType recordDateField rows =
      eventActions library dateField actionType recordDateField rows' := by
  induction h with
  | nil => rfl
  | cons hsame _ ih =>
      unfold eventActions
      rw [Row.get_same hsame, htype _ _ hsame, ih]
      congr 1
      funext eventDate
      cases eventDate with
      | none => rfl
      | some eventDate =>
          dsimp only
          rw [action_same hhash hsame]

theorem amortizationType_same (h : row.Same row') : amortizationType row = amortizationType row' := by
  unfold amortizationType
  rw [Row.get_same h]

theorem mapActions_reordered (hhash : library.HashesMappings)
    (h : Reordered ["coupons", "amortizations", "offers"] payload payload') :
    mapActions library payload = mapActions library payload' := by
  apply (tableRows_reordered h (by decide)).bind_eq
  intro coupons coupons' hcoupons
  rw [eventActions_same hhash hcoupons _ fun _ _ _ => rfl]
  congr 1
  funext coupons
  apply (tableRows_reordered h (by decide)).bind_eq
  intro amortizations amortizations' hamortizations
  rw [eventActions_same hhash hamortizations _ fun _ _ hsame => amortizationType_same hsame]
  congr 1
  funext amortizations
  apply (tableRows_reordered h (by decide)).bind_eq
  intro offers offers' hoffers
  rw [eventActions_same hhash hoffers _ fun _ _ _ => rfl]

end Steps

/-! ## The result -/

/-- A result with its `raw_payload` left out. -/
def apartFromRaw (result : MoexRefreshResult Decimal) : MoexRefreshResult Decimal :=
  { result with market := { result.market with rawPayload := "" } }

/-- Only `raw_payload` keeps the order of the columns. -/
theorem mapMarket_same {library : Library} {searchRow searchRow' securityRow securityRow'
      marketRow marketRow' : Row}
    (hsearch : searchRow.Same searchRow') (hsecurity : securityRow.Same securityRow')
    (hmarket : marketRow.Same marketRow') (timezone : LocalZone) (now : Instant)
    (currentFace : Option Decimal) (raw raw' : String) :
    Agrees (fun market market' => market = { market' with rawPayload := market.rawPayload })
      (mapMarket library timezone now searchRow securityRow marketRow currentFace raw)
      (mapMarket library timezone now searchRow' securityRow' marketRow' currentFace raw') := by
  unfold mapMarket
  rw [Row.get_same hsearch, Row.get_same hsecurity, Row.get_same hmarket, hsecurity.isEmpty,
    hmarket.isEmpty]
  iterate 10 refine Agrees.bind_same fun _ => ?_
  exact .ok rfl

/-- **The order of the columns does not matter**: payloads with reordered blocks give the same
exception, or results that are equal apart from `raw_payload`. -/
theorem column_order_irrelevant {library : Library} (hhash : library.HashesMappings)
    {searchPayload searchPayload' specificationPayload specificationPayload' marketPayload
      marketPayload' bondizationPayload bondizationPayload' : Payload}
    (hsearch : Reordered ["securities"] searchPayload searchPayload')
    (hspecification : Reordered ["description"] specificationPayload specificationPayload')
    (hmarket : Reordered ["securities", "marketdata"] marketPayload marketPayload')
    (hbondization : Reordered ["coupons", "amortizations", "offers"] bondizationPayload
      bondizationPayload')
    (isin : String) (timezone : LocalZone) {receivedAt : Option Instant} {clock clock' : Instant}
    (hnow : receivedAt.getD clock = receivedAt.getD clock') :
    (mapRefreshResult library isin searchPayload specificationPayload marketPayload
        bondizationPayload timezone receivedAt clock).map apartFromRaw =
      (mapRefreshResult library isin searchPayload' specificationPayload' marketPayload'
        bondizationPayload' timezone receivedAt clock').map apartFromRaw := by
  have hagrees : Agrees (fun result result' => apartFromRaw result = apartFromRaw result')
      (mapRefreshResult library isin searchPayload specificationPayload marketPayload
        bondizationPayload timezone receivedAt clock)
      (mapRefreshResult library isin searchPayload' specificationPayload' marketPayload'
        bondizationPayload' timezone receivedAt clock') := by
    unfold mapRefreshResult
    rw [hnow, descriptionValues_reordered hspecification (by decide),
      mapActions_reordered hhash hbondization,
      initialFaceValue_reordered hbondization (by decide) (by decide)]
    apply (findExactSecurity_reordered hsearch (by decide) isin).bind
    intro searchRow searchRow' hsearchRow
    apply (firstRow_reordered hmarket (by decide)).bind
    intro first first' hfirst
    apply (firstRow_reordered hmarket (by decide)).bind
    intro quoted quoted' hquoted
    have hsecurityRow : (first.getD Dict.empty).Same (first'.getD Dict.empty) :=
      getD_of_rel hfirst fun _ => rfl
    have hmarketRow : (quoted.getD Dict.empty).Same (quoted'.getD Dict.empty) :=
      getD_of_rel hquoted fun _ => rfl
    apply Agrees.bind_same
    intro descriptions
    apply Agrees.bind_same
    intro actions
    rw [secidOf_same hsearchRow, Row.get_same hsecurityRow]
    apply Agrees.bind_same
    intro secid
    apply Agrees.bind_same
    intro currentFace
    apply Agrees.bind_same
    intro initialFace
    dsimp only
    rw [mapInstrument_same hsearchRow hsecurityRow hmarketRow]
    apply Agrees.bind_same
    intro instrument
    apply (mapMarket_same hsearchRow hsecurityRow hmarketRow timezone _ currentFace _ _).bind
    intro market market' hmarket
    refine .ok ?_
    unfold apartFromRaw
    rw [hmarket]
  exact hagrees.map_eq fun _ _ hsame => hsame

/-! ## A bond with a coupon and its redemption -/

/-- A block. -/
def tableOf (names : List String) (rows : List (List Json)) : Json :=
  .object [("columns", .array (names.map .string)), ("data", .array (rows.map .array))]

/-- The block with its columns from the last to the first. -/
def reversedTable (names : List String) (rows : List (List Json)) : Json :=
  let order := (List.range names.length).reverse
  tableOf (reordered order names) (rows.map (reordered order))

theorem blockReordered_reversed {names : List String} {rows : List (List Json)}
    (hdistinct : names.Nodup) (hwidth : ∀ row ∈ rows, row.length = names.length) :
    BlockReordered (some (tableOf names rows)) (some (reversedTable names rows)) :=
  .columns rfl rfl hdistinct hwidth (List.reverse_perm _) rfl rfl

section Sample

variable (table : List String → List (List Json) → Json)

def searchSample : Payload := Dict.ofList [("securities", table
  ["name", "isin", "primary_boardid", "is_traded", "shortname", "secid"]
  [[.string "Other", .string "RU000A000000", .string "TQCB", .int 1, .string "Other",
      .string "OTHER"],
    [.string "ЭкономЛизинг", .string "RU000A107SX3", .string "TQCB", .int 1,
      .string "ЭконЛиз1Р7", .string "RU000A107SX3"]])]

def specificationSample : Payload := Dict.ofList [("description", table ["value", "name"]
  [[.string "1000", .string "FACEVALUE"], [.string "RUB", .string "FACEUNIT"]])]

def marketSample : Payload := Dict.ofList [
  ("securities", table ["BONDTYPE", "MATDATE", "FACEUNIT", "FACEVALUE", "LOTSIZE", "BOARDID"]
    [[.string "Фикс с известным купоном", .string "2027-02-15", .string "SUR", .int 1000, .int 1,
      .string "TQCB"]]),
  ("marketdata", table ["BIDDEPTH", "SYSTIME", "BID"]
    [[.int 12, .string "2026-07-22 15:39:25",
      .float (some (6841952996394271 / 70368744177664)) "97.23"]])]

def bondizationSample : Payload := Dict.ofList [
  ("coupons", table ["coupondate", "recorddate", "value_rub", "valueprc", "initialfacevalue"]
    [[.string "2026-08-17", .string "2026-08-14",
      .float (some (2807009205247017 / 70368744177664)) "39.89", .int 16, .int 1000]]),
  ("amortizations", table ["amortdate", "value_rub", "valueprc", "data_source"]
    [[.string "2027-02-15", .int 1000, .int 100, .string "maturity"]]),
  ("offers", table ["offerdate", "value"] [])]

end Sample

/-- The one timestamp of the sample, and the hashes of its two rows. -/
def sampleLibrary : Library where
  fromIsoFormat text :=
    if text = "2026-07-22 15:39:25" then some (1784734765000000, none) else none
  payloadHash row :=
    if (row.get "coupondate").str = "2026-08-17" then
      .ok "172626e8332cc7d26ed742109b3c5b7c3b25edcbb67b514a605bed061edbc853"
    else .ok "a503cca352c01e0f8cee3b2d131aa567b4dfa263d2c88c57d3780c18d4336c3c"

/-- What is mapped from the sample. -/
def sampleResult (table : List String → List (List Json) → Json) :
    Except MapperError (MoexRefreshResult Decimal) :=
  mapRefreshResult sampleLibrary "ru000a107sx3" (searchSample table) (specificationSample table)
    (marketSample table) (bondizationSample table) (fun _ => Py.seconds 10800)
    (some 1784678400000000) 0

theorem column_order_irrelevant_sample :
    (sampleResult tableOf).map apartFromRaw = (sampleResult reversedTable).map apartFromRaw ∧
      ((sampleResult tableOf).map fun result =>
        (result.instrument.currency, result.market.bidRubPerBond)) =
          .ok ("RUB", some (.finite (9723 / 10))) := by
  have hhash : sampleLibrary.HashesMappings := by
    intro row row' hsame
    unfold sampleLibrary
    dsimp only
    rw [Row.get_same hsame]
  have hsearch : Reordered ["securities"] (searchSample tableOf) (searchSample reversedTable) := by
    intro block hblock
    obtain rfl := List.mem_singleton.mp hblock
    exact blockReordered_reversed (by decide) (by simp)
  have hspecification : Reordered ["description"] (specificationSample tableOf)
      (specificationSample reversedTable) := by
    intro block hblock
    obtain rfl := List.mem_singleton.mp hblock
    exact blockReordered_reversed (by decide) (by simp)
  have hmarket : Reordered ["securities", "marketdata"] (marketSample tableOf)
      (marketSample reversedTable) := by
    intro block hblock
    rcases List.mem_pair.mp hblock with rfl | rfl
    · exact blockReordered_reversed (by decide) (by simp)
    · exact blockReordered_reversed (by decide) (by simp)
  have hbondization : Reordered ["coupons", "amortizations", "offers"] (bondizationSample tableOf)
      (bondizationSample reversedTable) := by
    intro block hblock
    simp only [List.mem_cons, List.not_mem_nil, or_false] at hblock
    rcases hblock with rfl | rfl | rfl
    · exact blockReordered_reversed (by decide) (by simp)
    · exact blockReordered_reversed (by decide) (by simp)
    · exact blockReordered_reversed (by decide) (by simp)
  refine ⟨column_order_irrelevant hhash hsearch hspecification hmarket hbondization _ _ rfl, ?_⟩
  decide +kernel

end BondTrading.Moex
