import DataApi.PiiCache.CacheGrowth
import DataApi.QueryEngine.MappedRows

/-!
# One result set mapped at two moments

The cache grows while the application serves, so a page that is mapped again later shows
more.  Both transformers only look tokens up: a larger cache answers wherever a smaller
one does, and the same.  Hence no mapped value is ever taken back or replaced, a null can
only be filled in, and fewer fields are reported as missing (`mapPiiFields_of_later`); in
the end a response is what a complete cache would give, up to the fields it reports.
-/

namespace DataApi
namespace QueryEngine

open Library PiiCache

section Transformers

variable {P : Scalars} (B : Builtins P)

/-- `transform_when_exceeds_length`. -/
def transformWhenExceedsLength (minLength : Nat) (stripLastCharacter : Bool)
    (value : PyValue P) (piiCache : Dict String String) : Option (PyValue P) :=
  match value with
  | .none => none
  | value =>
      let token := B.str value
      if token.length ≤ minLength then none
      else
        let actualToken := if stripLastCharacter then token.toList.dropLast else token.toList
        let suffix := if stripLastCharacter then token.toList.getLast?.toList else []
        (piiCache.get? (String.ofList actualToken)).map fun mapped =>
          .str (mapped ++ String.ofList suffix)

/-- A transformer that only looks tokens up: with more entries it answers wherever it
answered before, and the same; it never answers null. -/
structure LooksUp (transformer : PyValue P → Dict String String → Option (PyValue P)) :
    Prop where
  keeps : ∀ value d e transformed, d.SubDict e →
    transformer value d = some transformed → transformer value e = some transformed
  ne_none : ∀ value d, transformer value d ≠ some .none

variable {B}

theorem mapToken_of_subDict {d e : Dict String String} (hSub : d.SubDict e)
    {token mapped : String} (h : mapToken d token = some mapped) :
    mapToken e token = some mapped := by
  rw [mapToken_eq_some] at h ⊢
  cases h with
  | whole hLength hCached => exact .whole hLength (hSub _ _ hCached)
  | suffixed last hLength hCached => exact .suffixed last hLength (hSub _ _ hCached)

theorem looksUp_transformByTokenLength : LooksUp (transformByTokenLength B) where
  keeps value d e transformed hSub h := by
    by_cases hValue : value = .none
    · subst hValue
      cases h
    · rw [transformByTokenLength_of_ne_none B _ hValue, Option.map_eq_some_iff] at h ⊢
      obtain ⟨mapped, hMap, rfl⟩ := h
      exact ⟨mapped, mapToken_of_subDict hSub hMap, rfl⟩
  ne_none value d h := by
    by_cases hValue : value = .none
    · subst hValue
      cases h
    · rw [transformByTokenLength_of_ne_none B _ hValue, Option.map_eq_some_iff] at h
      obtain ⟨mapped, -, hNone⟩ := h
      cases hNone

theorem transformWhenExceedsLength_eq_some {minLength : Nat} {strip : Bool}
    {value transformed : PyValue P} {d : Dict String String} :
    transformWhenExceedsLength B minLength strip value d = some transformed ↔
      value ≠ .none ∧ minLength < (B.str value).length ∧ ∃ mapped,
        d.get? (String.ofList (if strip then (B.str value).toList.dropLast
          else (B.str value).toList)) = some mapped ∧
        transformed = .str (mapped ++ String.ofList
          (if strip then (B.str value).toList.getLast?.toList else [])) := by
  by_cases hValue : value = .none
  · subst hValue
    refine iff_of_false (fun h => ?_) fun h => h.1 rfl
    cases h
  · have hUnfold : transformWhenExceedsLength B minLength strip value d =
        if (B.str value).length ≤ minLength then none
        else (d.get? (String.ofList (if strip then (B.str value).toList.dropLast
          else (B.str value).toList))).map fun mapped => .str (mapped ++ String.ofList
            (if strip then (B.str value).toList.getLast?.toList else [])) := by
      cases value <;> first | rfl | exact absurd rfl hValue
    rw [hUnfold]
    split
    · rename_i hShort
      refine iff_of_false (fun h => ?_) fun h => absurd h.2.1 (not_lt.mpr hShort)
      cases h
    · rename_i hLong
      rw [Option.map_eq_some_iff]
      constructor
      · rintro ⟨mapped, hCached, rfl⟩
        exact ⟨hValue, not_le.mp hLong, mapped, hCached, rfl⟩
      · rintro ⟨-, -, mapped, hCached, rfl⟩
        exact ⟨mapped, hCached, rfl⟩

theorem looksUp_transformWhenExceedsLength (minLength : Nat) (strip : Bool) :
    LooksUp (transformWhenExceedsLength B minLength strip) where
  keeps value d e transformed hSub h := by
    rw [transformWhenExceedsLength_eq_some] at h ⊢
    obtain ⟨hValue, hLong, mapped, hCached, hText⟩ := h
    exact ⟨hValue, hLong, mapped, hSub _ _ hCached, hText⟩
  ne_none value d h := by
    rw [transformWhenExceedsLength_eq_some] at h
    obtain ⟨-, -, mapped, -, hNone⟩ := h
    cases hNone

end Transformers

section Rows

variable {P : Scalars} {d e : Dict String String}

/-- A row with nulls filled in. -/
structure RowFilled (row row' : Row P) : Prop where
  keys : row'.keys = row.keys
  fields : ∀ column, row'.get? column = row.get? column ∨ row.get? column = some .none

theorem RowFilled.refl (row : Row P) : RowFilled row row :=
  ⟨rfl, fun _ => .inl rfl⟩

/-- A field that is not null stays as it is. -/
theorem RowFilled.get? {row row' : Row P} (h : RowFilled row row') {column : String}
    {value : PyValue P} (hValue : value ≠ .none) (hGet : row.get? column = some value) :
    row'.get? column = some value := by
  rcases h.fields column with hSame | hNull
  · rw [hSame, hGet]
  · rw [hGet, Option.some.injEq] at hNull
    exact absurd hNull hValue

/-- One rule on two rows that agree in its column. -/
theorem mapColumn_filled {columnName : String} {rule : PiiColumnRule P}
    (hRule : LooksUp rule.transformer) (hSub : d.SubDict e) {row row' : Row P}
    (hFilled : RowFilled row row') (hSame : row'.get? columnName = row.get? columnName) :
    RowFilled (mapColumn d columnName rule row).1 (mapColumn e columnName rule row').1 ∧
      (∀ column, column ≠ columnName →
        (mapColumn d columnName rule row).1.get? column = row.get? column ∧
        (mapColumn e columnName rule row').1.get? column = row'.get? column) ∧
      ((mapColumn e columnName rule row').2).Sublist (mapColumn d columnName rule row).2 ∧
      ((mapColumn d columnName rule row).2 = [] →
        (mapColumn d columnName rule row).1.get? columnName =
          (mapColumn e columnName rule row').1.get? columnName) := by
  have hOther : ∀ (r : Row P) (value : PyValue P) (column : String), column ≠ columnName →
      (r.set columnName value).get? column = r.get? column :=
    fun r value column hColumn => Dict.get?_set_of_ne r value hColumn
  unfold mapColumn
  rw [hSame]
  split
  · exact ⟨hFilled, fun _ _ => ⟨rfl, rfl⟩, .refl _, fun _ => hSame.symm⟩
  · exact ⟨hFilled, fun _ _ => ⟨rfl, rfl⟩, .refl _, fun _ => hSame.symm⟩
  · rename_i value hNe hGet
    have hMem : columnName ∈ row.keys := (row.mem_keys_iff columnName).mpr ⟨value, hGet⟩
    have hMem' : columnName ∈ row'.keys := hFilled.keys ▸ hMem
    -- both rows keep their keys and change in the column of the rule only
    have hSet : ∀ v v' : PyValue P, v' = v ∨ v = .none →
        RowFilled (row.set columnName v) (row'.set columnName v') := by
      intro v v' hv
      refine ⟨?_, fun column => ?_⟩
      · rw [Dict.keys_set_of_mem _ hMem, Dict.keys_set_of_mem _ hMem', hFilled.keys]
      · rw [Dict.get?_set, Dict.get?_set]
        split
        · rcases hv with rfl | rfl
          · exact .inl rfl
          · exact .inr rfl
        · exact hFilled.fields column
    cases hd : rule.transformer value d with
    | some transformed =>
        rw [hRule.keeps value d e transformed hSub hd]
        refine ⟨hSet _ _ (.inl rfl), fun column hColumn => ⟨?_, ?_⟩, .refl _, fun _ => ?_⟩
        · exact hOther row transformed column hColumn
        · exact hOther row' transformed column hColumn
        · rw [Dict.get?_set_self, Dict.get?_set_self]
    | none =>
        cases he : rule.transformer value e with
        | some transformed =>
            refine ⟨hSet _ _ (.inr rfl), fun column hColumn => ⟨?_, ?_⟩,
              List.nil_sublist _, fun h => ?_⟩
            · exact hOther row .none column hColumn
            · exact hOther row' transformed column hColumn
            · cases h
        | none =>
            refine ⟨hSet _ _ (.inl rfl), fun column hColumn => ⟨?_, ?_⟩, .refl _,
              fun h => ?_⟩
            · exact hOther row .none column hColumn
            · exact hOther row' .none column hColumn
            · cases h

/-- All rules on two rows that agree in the columns of the rules. -/
theorem mapRow_filled {rules : List (String × PiiColumnRule P)}
    (hRules : ∀ entry ∈ rules, LooksUp entry.2.transformer)
    (hNodup : (rules.map Prod.fst).Nodup) (hSub : d.SubDict e) {row row' : Row P}
    (hFilled : RowFilled row row')
    (hSame : ∀ column ∈ rules.map Prod.fst, row'.get? column = row.get? column) :
    RowFilled (mapRow d rules row).1 (mapRow e rules row').1 ∧
      ((mapRow e rules row').2).Sublist (mapRow d rules row).2 ∧
      ((mapRow d rules row).2 = [] →
        ∀ column, row'.get? column = row.get? column →
          (mapRow e rules row').1.get? column = (mapRow d rules row).1.get? column) := by
  induction rules generalizing row row' with
  | nil => exact ⟨hFilled, .refl _, fun _ _ h => h⟩
  | cons entry rest ih =>
      obtain ⟨columnName, rule⟩ := entry
      rw [List.map_cons, List.nodup_cons] at hNodup
      obtain ⟨hFirst, hOther, hMissing, hComplete⟩ := mapColumn_filled
        (hRules (columnName, rule) List.mem_cons_self) hSub hFilled
        (hSame columnName List.mem_cons_self)
      have hRest : ∀ column ∈ rest.map Prod.fst,
          (mapColumn e columnName rule row').1.get? column =
            (mapColumn d columnName rule row).1.get? column := by
        intro column hColumn
        have hNe : column ≠ columnName := by
          rintro rfl
          exact hNodup.1 hColumn
        rw [(hOther column hNe).1, (hOther column hNe).2]
        exact hSame column (List.mem_cons_of_mem _ hColumn)
      obtain ⟨hLater, hLaterMissing, hLaterComplete⟩ :=
        ih (fun entry hEntry => hRules entry (List.mem_cons_of_mem _ hEntry)) hNodup.2
          hFirst hRest
      refine ⟨hLater, hMissing.append hLaterMissing, fun hNone column hColumn => ?_⟩
      obtain ⟨hNoneFirst, hNoneLater⟩ := List.append_eq_nil_iff.mp hNone
      refine hLaterComplete hNoneLater column ?_
      by_cases hNe : column = columnName
      · rw [hNe]
        exact (hComplete hNoneFirst).symm
      · rw [(hOther column hNe).1, (hOther column hNe).2, hColumn]

end Rows

section Responses

variable {P : Scalars}

/-- What a second mapping of the same rows does with a larger cache: it raises as the
first one does, or fills in nulls that the first one has reported. -/
inductive ResponseGrows : Except Raised (List (Row P) × List (MissingPiiMapping P)) →
    Except Raised (List (Row P) × List (MissingPiiMapping P)) → Prop where
  | raised (e : Raised) : ResponseGrows (.error e) (.error e)
  | answered {rows rows' : List (Row P)} {missing missing' : List (MissingPiiMapping P)}
      (hRows : List.Forall₂ RowFilled rows rows') (hMissing : missing'.Sublist missing)
      (hComplete : missing = [] → rows' = rows) :
      ResponseGrows (.ok (rows, missing)) (.ok (rows', missing'))

/-- A row none of whose fields is reported as missing is mapped for good. -/
theorem mapRow_eq_of_complete {d e : Dict String String} (hSub : d.SubDict e)
    {rules : List (String × PiiColumnRule P)}
    (hRules : ∀ entry ∈ rules, LooksUp entry.2.transformer)
    (hNodup : (rules.map Prod.fst).Nodup) (row : Row P)
    (hNone : (mapRow d rules row).2 = []) : (mapRow e rules row).1 = (mapRow d rules row).1 := by
  obtain ⟨hFilled, -, hComplete⟩ :=
    mapRow_filled hRules hNodup hSub (RowFilled.refl row) fun _ _ => rfl
  exact Dict.ext_get? hFilled.keys fun column => hComplete hNone column rfl

theorem mapPiiFields_of_subDict {cache cache' : AccountMapInMemory}
    (hSub : cache.tokenToValue.SubDict cache'.tokenToValue) {spec : QuerySpec P}
    (hRules : ∀ entry ∈ spec.columnPiiRules.entries, LooksUp entry.2.transformer)
    (rows : List (Row P)) :
    ResponseGrows (mapPiiFields cache rows spec) (mapPiiFields cache' rows spec) := by
  rw [mapPiiFields, mapPiiFields]
  split
  · exact .raised _
  · have hRow := fun row => mapRow_filled hRules spec.columnPiiRules.nodup hSub
      (RowFilled.refl row) fun _ _ => rfl
    refine .answered ?_ ?_ fun hNone => ?_
    · rw [List.map_map, List.map_map, List.forall₂_map_left_iff, List.forall₂_map_right_iff]
      exact List.forall₂_same.mpr fun row _ => (hRow row).1
    · induction rows with
      | nil => exact .refl _
      | cons row rows ih => exact (hRow row).2.1.append ih
    · rw [List.map_map, List.flatten_eq_nil_iff] at hNone
      rw [List.map_map, List.map_map]
      refine List.map_congr_left fun row hMem => ?_
      exact mapRow_eq_of_complete hSub hRules spec.columnPiiRules.nodup row
        (hNone _ (List.mem_map.mpr ⟨row, hMem, rfl⟩))

/-- A page mapped at one moment and again at a later one, whatever is committed and loaded
in between, and each of the two against the whole table of the later moment. -/
theorem mapPiiFields_of_later {c : Collation} {settings : PiiSettings} {s s' : SyncState}
    (hReach : (serving c settings).Reachable s)
    (hLater : (serving c settings).Later s s') {spec : QuerySpec P}
    (hRules : ∀ entry ∈ spec.columnPiiRules.entries, LooksUp entry.2.transformer)
    (rows : List (Row P)) :
    ResponseGrows (mapPiiFields s.cache rows spec) (mapPiiFields s'.cache rows spec) ∧
      ResponseGrows (mapPiiFields s.cache rows spec)
        (mapPiiFields (snapshotCache c s'.table) rows spec) ∧
      ResponseGrows (mapPiiFields s'.cache rows spec)
        (mapPiiFields (snapshotCache c s'.table) rows spec) := by
  have hGrows : s.cache.tokenToValue.SubDict s'.cache.tokenToValue :=
    (cacheGrows_of_later hReach hLater).entries
  have hComplete : s'.cache.tokenToValue.SubDict (snapshotCache c s'.table).tokenToValue := by
    intro token uuid hCached
    rw [exact_snapshotCache token]
    exact fromTable_of_reachable (hReach.later hLater) token uuid hCached
  exact ⟨mapPiiFields_of_subDict hGrows hRules rows,
    mapPiiFields_of_subDict (hGrows.trans hComplete) hRules rows,
    mapPiiFields_of_subDict hComplete hRules rows⟩

theorem looksUp_singleRule (B : Builtins P) (columnName : String) :
    ∀ entry ∈ (singleRule B columnName).entries, LooksUp entry.2.transformer := by
  intro entry hEntry
  rw [byTokenLength_singleRule columnName entry hEntry]
  exact looksUp_transformByTokenLength

end Responses

/-- The row of one account. -/
def accountRow : AccountMapRow := ⟨"0123456789abcdef0123456789abcdef", "uuid-1", 200⟩

/-- The table after the row is committed. -/
def accountTable : AccountMap := ⟨[accountRow, ⟨"a", "u1", 100⟩], by decide⟩

/-- The states before the commit, after it, in the load, and after its first batch. -/
theorem accountRow_later : (serving .codePoint {}).Later
    ⟨oneRow, snapshotCache .codePoint oneRow, none⟩
    ⟨accountTable, (snapshotCache .codePoint oneRow).addRecord accountRow.record,
      some ⟨100, 500, 500, 1, true⟩⟩ := by
  have hCommit : (serving .codePoint {}).Later
      ⟨oneRow, snapshotCache .codePoint oneRow, none⟩
      ⟨accountTable, snapshotCache .codePoint oneRow, none⟩ :=
    .single ⟨.sync (.commit accountRow), rfl⟩
  have hBegin : (serving .codePoint {}).Later
      ⟨oneRow, snapshotCache .codePoint oneRow, none⟩
      ⟨accountTable, snapshotCache .codePoint oneRow, some ⟨100, 500, 0, 0, true⟩⟩ :=
    hCommit.tail ⟨.sync (.begin 500), rfl⟩
  exact hBegin.tail ⟨.sync .query, rfl⟩

/-- A page with that account, mapped before and after the row reaches the cache. -/
theorem mapPiiFields_of_later_accountRow :
    ResponseGrows
        (mapPiiFields (snapshotCache .codePoint oneRow)
          [Dict.empty.set "accountid" (.str accountRow.customerId)]
          ⟨"accounts", singleRule Builtins.plain "accountid"⟩)
        (mapPiiFields ((snapshotCache .codePoint oneRow).addRecord accountRow.record)
          [Dict.empty.set "accountid" (.str accountRow.customerId)]
          ⟨"accounts", singleRule Builtins.plain "accountid"⟩) ∧
      ResponseGrows
        (mapPiiFields (snapshotCache .codePoint oneRow)
          [Dict.empty.set "accountid" (.str accountRow.customerId)]
          ⟨"accounts", singleRule Builtins.plain "accountid"⟩)
        (mapPiiFields (snapshotCache .codePoint accountTable)
          [Dict.empty.set "accountid" (.str accountRow.customerId)]
          ⟨"accounts", singleRule Builtins.plain "accountid"⟩) := by
  have hReach : (serving .codePoint {}).Reachable
      ⟨oneRow, snapshotCache .codePoint oneRow, none⟩ := .start (serving_start _ _ _)
  have hRules : ∀ entry ∈ (⟨"accounts", singleRule Builtins.plain "accountid"⟩ :
      QuerySpec .plain).columnPiiRules.entries, LooksUp entry.2.transformer :=
    looksUp_singleRule Builtins.plain "accountid"
  obtain ⟨hLater, hEarlier, -⟩ := mapPiiFields_of_later hReach accountRow_later hRules
    [Dict.empty.set "accountid" (.str accountRow.customerId)]
  exact ⟨hLater, hEarlier⟩

end QueryEngine
end DataApi
