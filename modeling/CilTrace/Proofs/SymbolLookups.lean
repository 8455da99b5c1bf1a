import Mathlib.Data.List.Forall2
import Mathlib.Data.List.Induction
import Mathlib.Data.List.Nodup
import CilTrace.Proofs.CursorReads
import CilTrace.Proofs.HexPairs
import CilTrace.Proofs.NumberSpellings
import CilTrace.Proofs.ToldFailures

/-!
Lookups in symbol tables that are loaded from data.

Several keys of a table may spell one token. The table keeps the value of the last of them, and only
what it keeps has to be well-formed. A lookup therefore goes back to the data itself, to the last
entry of a table whose key reads as the token.
-/

namespace CilTrace

theorem exists_return_eq_ok_iff {ε α β : Type} {result : Except ε α} {change : α → β} :
    (∃ value, (do return change (← result) : Except ε β) = .ok value) ↔
      ∃ first, result = .ok first := by
  simp [bind_eq_ok_iff, pure, Except.pure]

theorem mapM_eq_ok_iff {ε α β : Type} {change : α → Except ε β} {items : List α} {results : List β} :
    items.mapM change = .ok results ↔
      List.Forall₂ (fun item result => change item = .ok result) items results := by
  induction items generalizing results with
  | nil => simp [pure, Except.pure, eq_comm]
  | cons item items induction =>
      simp only [List.mapM_cons, bind_eq_ok_iff, induction, List.forall₂_cons_left_iff, pure,
        Except.pure, Except.ok.injEq]
      constructor
      · rintro ⟨first, changed, rest, others, rfl⟩
        exact ⟨first, rest, changed, others, rfl⟩
      · rintro ⟨first, rest, changed, others, rfl⟩
        exact ⟨first, changed, rest, others, rfl⟩

theorem exists_mapM_eq_ok_iff {ε α β : Type} {change : α → Except ε β} {items : List α} :
    (∃ results, items.mapM change = .ok results) ↔
      ∀ item ∈ items, ∃ result, change item = .ok result := by
  simp only [mapM_eq_ok_iff]
  induction items with
  | nil => simp
  | cons item items induction =>
      rw [List.forall_mem_cons, ← induction]
      simp only [List.forall₂_cons_left_iff]
      constructor
      · rintro ⟨_, first, rest, changed, others, rfl⟩
        exact ⟨⟨first, changed⟩, rest, others⟩
      · rintro ⟨⟨first, changed⟩, rest, others⟩
        exact ⟨_, first, rest, changed, others, rfl⟩

/-! ## Values that can be written -/

namespace Value

mutual

/-- Whether every number in a value can be written. -/
def IsWritable : Value → Prop
  | int number => Numeral.isWritable number = true
  | list items => AreWritable items
  | object fields => HasWritable fields
  | _ => True

def AreWritable : List Value → Prop
  | [] => True
  | item :: items => item.IsWritable ∧ AreWritable items

def HasWritable : List (WideText × Value) → Prop
  | [] => True
  | (_, value) :: fields => value.IsWritable ∧ HasWritable fields

end

mutual

theorem exists_inner : ∀ (value : Value), value.IsWritable → ∃ text, value.inner = .ok text
  | null, _ => ⟨_, rfl⟩
  | bool _, _ => ⟨_, rfl⟩
  | int _, short => ⟨_, Numeral.write_of_writable short⟩
  | float _, _ => ⟨_, rfl⟩
  | text _, _ => ⟨_, rfl⟩
  | bytes _, _ => ⟨_, rfl⟩
  | list items, short => by
      rcases exists_innerItems items short with ⟨texts, shown⟩
      exact ⟨_, by rw [inner, shown]; rfl⟩
  | object fields, short => by
      rcases exists_innerFields fields short with ⟨texts, shown⟩
      exact ⟨_, by rw [inner, shown]; rfl⟩

theorem exists_innerItems : ∀ (items : List Value), AreWritable items →
    ∃ texts, innerItems items = .ok texts
  | [], _ => ⟨_, rfl⟩
  | item :: items, short => by
      rcases exists_inner item short.1 with ⟨text, first⟩
      rcases exists_innerItems items short.2 with ⟨texts, rest⟩
      exact ⟨_, by rw [innerItems, first, rest]; rfl⟩

theorem exists_innerFields : ∀ (fields : List (WideText × Value)), HasWritable fields →
    ∃ texts, innerFields fields = .ok texts
  | [], _ => ⟨_, rfl⟩
  | (name, value) :: fields, short => by
      rcases exists_inner value short.1 with ⟨text, first⟩
      rcases exists_innerFields fields short.2 with ⟨texts, rest⟩
      exact ⟨_, by rw [innerFields, first, rest]; rfl⟩

end

theorem exists_rendering {value : Value} (short : value.IsWritable) :
    ∃ content, value.rendering = .ok content := by
  cases value with
  | text content => exact ⟨content, rfl⟩
  | _ =>
      rcases exists_inner _ short with ⟨shown, inner⟩
      exact ⟨WideText.ofString shown, by simp only [rendering, inner, Except.map]⟩

end Value

/-! ## Tables -/

namespace Table

variable {α β ε : Type}

theorem lookup_cons (token first : Int) (value : α) (rest : List (Int × α)) :
    ((first, value) :: rest).lookup token =
      if token = first then some value else rest.lookup token := by
  rw [List.lookup_cons]
  by_cases same : token = first
  · rw [if_pos same, beq_iff_eq.mpr same]
  · rw [if_neg same, beq_eq_false_iff_ne.mpr same]

theorem find?_insert (table : Table α) (token other : Int) (value : α) :
    (table.insert token value).find? other =
      if other = token then some value else table.find? other := by
  rcases table with ⟨entries⟩
  simp only [insert, find?]
  induction entries with
  | nil => exact lookup_cons other token value []
  | cons entry rest induction =>
      rcases entry with ⟨first, old⟩
      by_cases front : first = token
      · subst front
        rw [put, if_pos rfl, lookup_cons, lookup_cons]
        split <;> rfl
      · rw [put, if_neg front, lookup_cons, lookup_cons, induction]
        split
        case isTrue sought => rw [if_neg (sought ▸ front)]
        case isFalse => rfl

theorem ofList_concat (entries : List (Int × α)) (entry : Int × α) :
    ofList (entries ++ [entry]) = (ofList entries).insert entry.1 entry.2 := by
  rw [ofList, List.foldl_concat]
  rfl

theorem mem_tokens_put (token other : Int) (value : α) (entries : List (Int × α)) :
    other ∈ (put token value entries).map Prod.fst ↔
      other = token ∨ other ∈ entries.map Prod.fst := by
  induction entries with
  | nil => simp [put]
  | cons entry rest induction =>
      rcases entry with ⟨first, old⟩
      by_cases same : first = token
      · simp [put, same]
      · simp only [put, if_neg same, List.map_cons, List.mem_cons, induction]
        tauto

/-- No token has two entries. -/
def Distinct (table : Table α) : Prop :=
  (table.entries.map Prod.fst).Nodup

theorem Distinct.insert {table : Table α} (distinct : table.Distinct) (token : Int) (value : α) :
    (table.insert token value).Distinct := by
  rcases table with ⟨entries⟩
  simp only [Distinct, Table.insert] at distinct ⊢
  induction entries with
  | nil => simp [put]
  | cons entry rest induction =>
      rcases entry with ⟨first, old⟩
      rw [List.map_cons, List.nodup_cons] at distinct
      by_cases same : first = token
      · subst same
        simpa [put] using distinct
      · rw [put, if_neg same, List.map_cons, List.nodup_cons, mem_tokens_put]
        exact ⟨by simp [same, distinct.1], induction distinct.2⟩

theorem Distinct.mem_entries_iff {table : Table α} (distinct : table.Distinct) {token : Int}
    {value : α} : (token, value) ∈ table.entries ↔ table.find? token = some value := by
  rcases table with ⟨entries⟩
  simp only [Distinct, find?] at distinct ⊢
  induction entries with
  | nil => simp
  | cons entry rest induction =>
      rcases entry with ⟨first, old⟩
      rw [List.map_cons, List.nodup_cons] at distinct
      rw [List.mem_cons, induction distinct.2, lookup_cons]
      by_cases same : token = first
      · subst same
        have absent : rest.lookup token = none := by
          rw [List.lookup_eq_none_iff]
          intro other member
          rw [bne_iff_ne]
          intro same
          exact distinct.1 (List.mem_map.mpr ⟨other, member, same.symm⟩)
        simp [absent, eq_comm]
      · simp [same]

theorem find?_map (table : Table α) (change : α → β) (token : Int) :
    (table.map change).find? token = (table.find? token).map change := by
  rcases table with ⟨entries⟩
  simp only [map, find?]
  induction entries with
  | nil => rfl
  | cons entry rest induction =>
      rcases entry with ⟨first, old⟩
      rw [List.map_cons, lookup_cons, lookup_cons, induction]
      split <;> rfl

theorem forall₂_of_mapM {table : Table α} {change : α → Except ε β} {result : Table β}
    (changed : table.mapM change = .ok result) :
    List.Forall₂ (fun old new => old.1 = new.1 ∧ change old.2 = .ok new.2)
      table.entries result.entries := by
  simp only [Table.mapM, bind_eq_ok_iff, mapM_eq_ok_iff, pure, Except.pure, Except.ok.injEq]
    at changed
  rcases changed with ⟨entries, each, rfl⟩
  apply each.imp
  rintro old new ⟨value, step, rfl⟩
  exact ⟨rfl, step⟩

theorem Distinct.mapM_succeeds_iff {table : Table α} (distinct : table.Distinct)
    {change : α → Except ε β} :
    (∃ result, table.mapM change = .ok result) ↔
      ∀ token value, table.find? token = some value → ∃ result, change value = .ok result := by
  rw [Table.mapM, exists_return_eq_ok_iff, exists_mapM_eq_ok_iff]
  simp only [exists_return_eq_ok_iff, Prod.forall, distinct.mem_entries_iff]

theorem find?_of_mapM {table : Table α} {change : α → Except ε β} {result : Table β}
    (changed : table.mapM change = .ok result) (token : Int) :
    Option.Rel (fun old new => change old = .ok new) (table.find? token) (result.find? token) := by
  have each := forall₂_of_mapM changed
  rcases table with ⟨olds⟩
  rcases result with ⟨news⟩
  simp only [find?] at each ⊢
  clear changed
  induction each with
  | nil => exact .none
  | @cons old new olds news step rest induction =>
      rcases old with ⟨token, old⟩
      rcases new with ⟨_, new⟩
      rcases step with ⟨rfl, step⟩
      rw [lookup_cons, lookup_cons]
      split
      · exact .some step
      · exact induction

end Table

/-! ## Entries of the data -/

namespace SymbolTables

/-- No key reads as the token. -/
def Lacks (entries : List (WideText × Value)) (token : Int) : Prop :=
  ∀ entry ∈ entries, Numeral.readSpelled entry.1 ≠ .ok token

/-- The last entry whose key reads as the token has this value. -/
def IsLast (entries : List (WideText × Value)) (token : Int) (value : Value) : Prop :=
  ∃ earlier key later, entries = earlier ++ (key, value) :: later ∧
    Numeral.readSpelled key = .ok token ∧ Lacks later token

theorem readEntry_eq_ok_iff {entry : WideText × Value} {token : Int} {value : Value} :
    readEntry entry = .ok (token, value) ↔
      Numeral.readSpelled entry.1 = .ok token ∧ entry.2 = value := by
  rw [readEntry, TokenKey.read, bind_eq_ok_iff]
  cases Numeral.readSpelled entry.1 <;> simp [pure, Except.pure]

theorem lacks_concat {entries : List (WideText × Value)} {entry : WideText × Value} {token : Int} :
    Lacks (entries ++ [entry]) token ↔
      Lacks entries token ∧ Numeral.readSpelled entry.1 ≠ .ok token := by
  rw [Lacks, List.forall_mem_append, List.forall_mem_singleton]
  rfl

theorem isLast_concat {entries : List (WideText × Value)} {entry : WideText × Value} {token : Int}
    {value : Value} :
    IsLast (entries ++ [entry]) token value ↔
      Numeral.readSpelled entry.1 = .ok token ∧ entry.2 = value ∨
      Numeral.readSpelled entry.1 ≠ .ok token ∧ IsLast entries token value := by
  constructor
  · rintro ⟨earlier, key, later, split, reads, lacks⟩
    rcases List.eq_nil_or_concat' later with rfl | ⟨front, last, rfl⟩
    · rcases List.append_inj' split rfl with ⟨_, same⟩
      cases same
      exact .inl ⟨reads, rfl⟩
    · rw [← List.cons_append, ← List.append_assoc] at split
      rcases List.append_inj' split rfl with ⟨rfl, same⟩
      cases same
      rw [lacks_concat] at lacks
      exact .inr ⟨lacks.2, earlier, key, front, rfl, reads, lacks.1⟩
  · rintro (⟨reads, rfl⟩ | ⟨differs, earlier, key, later, rfl, reads, lacks⟩)
    · exact ⟨entries, entry.1, [], rfl, reads, by simp [Lacks]⟩
    · exact ⟨earlier, key, later ++ [entry], by simp, reads, lacks_concat.mpr ⟨lacks, differs⟩⟩

/-- A table has what the entries say of each token. -/
structure Keeps (table : Table Value) (entries : List (WideText × Value)) : Prop where
  distinct : table.Distinct
  found (token : Int) (value : Value) : table.find? token = some value ↔ IsLast entries token value
  lacking (token : Int) : table.find? token = none ↔ Lacks entries token

theorem Keeps.insert {table : Table Value} {entries : List (WideText × Value)}
    (keeps : Keeps table entries) {entry : WideText × Value} {token : Int}
    (reads : Numeral.readSpelled entry.1 = .ok token) :
    Keeps (table.insert token entry.2) (entries ++ [entry]) where
  distinct := keeps.distinct.insert token entry.2
  found other value := by
    rw [Table.find?_insert, isLast_concat, reads, Except.ok.injEq, ← keeps.found]
    by_cases same : other = token
    · simp [same]
    · simp [same, Ne.symm same]
  lacking other := by
    rw [Table.find?_insert, lacks_concat, reads, ← keeps.lacking]
    by_cases same : other = token
    · simp [same]
    · simp [same, Ne.symm same]

theorem keeps_ofList {entries : List (WideText × Value)} {read : List (Int × Value)}
    (reads : entries.mapM readEntry = .ok read) : Keeps (Table.ofList read) entries := by
  induction entries using List.reverseRecOn generalizing read with
  | nil =>
      cases reads
      exact ⟨List.nodup_nil, by simp [IsLast, Table.ofList, Table.empty, Table.find?],
        by simp [Lacks, Table.ofList, Table.empty, Table.find?]⟩
  | append_singleton entries entry induction =>
      simp only [List.mapM_append, List.mapM_cons, List.mapM_nil, bind_eq_ok_iff, pure, Except.pure,
        Except.ok.injEq] at reads
      rcases reads with ⟨front, frontReads, _, ⟨⟨token, value⟩, last, _, rfl, rfl⟩, rfl⟩
      rcases readEntry_eq_ok_iff.mp last with ⟨tokenReads, rfl⟩
      rw [Table.ofList_concat]
      exact (induction frontReads).insert tokenReads

/-- A table has the names that the entries say. -/
structure Names (entries : List (WideText × Value)) (names : Table Symbol) : Prop where
  found (token : Int) (value : Value) (last : IsLast entries token value) :
    names.find? token = some (.plain value)
  lacking (token : Int) (lacks : Lacks entries token) : names.find? token = none

/-! ## Loading -/

def tableNames : List String :=
  ["signatures", "methods", "fields", "types", "strings", "members"]

/-- What the data has under a name: an object with these entries, or nothing. -/
inductive Holds (fields : List (WideText × Value)) (name : String) :
    List (WideText × Value) → Prop where
  | absent (missing : fields.lookup (WideText.ofString name) = none) : Holds fields name []
  | void (value : Value) (found : fields.lookup (WideText.ofString name) = some value)
      (isVoid : value.isVoid = true) : Holds fields name []
  | object (entries : List (WideText × Value))
      (found : fields.lookup (WideText.ofString name) = some (.object entries)) :
      Holds fields name entries

section

variable {fields entries : List (WideText × Value)} {name : String}

theorem Holds.entriesOf_eq (holds : Holds fields name entries) :
    entriesOf (.object fields) name = .ok entries := by
  cases holds with
  | absent missing => simp [entriesOf, Value.field?, missing, Value.isVoid]
  | void value found isVoid =>
      simp only [entriesOf, Value.field?, found, Option.getD_some]
      cases value with
      | object entries =>
          simp_all [Value.isVoid]
      | _ => simp [isVoid]
  | object entries found => simp [entriesOf, Value.field?, found]

theorem Holds.tableOf_eq (holds : Holds fields name entries) :
    tableOf (.object fields) name = do return Table.ofList (← entries.mapM readEntry) := by
  rw [tableOf, holds.entriesOf_eq]
  rfl

theorem Holds.tableOf_succeeds_iff (holds : Holds fields name entries) :
    (∃ table, tableOf (.object fields) name = .ok table) ↔
      ∀ entry ∈ entries, ∃ token, Numeral.readSpelled entry.1 = .ok token := by
  rw [holds.tableOf_eq, exists_return_eq_ok_iff, exists_mapM_eq_ok_iff]
  simp only [Prod.exists, readEntry_eq_ok_iff, exists_eq_right']

theorem Holds.keeps (holds : Holds fields name entries) {table : Table Value}
    (loaded : tableOf (.object fields) name = .ok table) : Keeps table entries := by
  rw [holds.tableOf_eq] at loaded
  rcases bind_eq_ok_iff.mp loaded with ⟨read, reads, made⟩
  cases made
  exact keeps_ofList reads

theorem Holds.namesOf_succeeds_iff (holds : Holds fields name entries) :
    (∃ names, namesOf (.object fields) name = .ok names) ↔
      ∀ entry ∈ entries, ∃ token, Numeral.readSpelled entry.1 = .ok token := by
  rw [namesOf, exists_return_eq_ok_iff, holds.tableOf_succeeds_iff]

theorem Holds.names (holds : Holds fields name entries) {names : Table Symbol}
    (loaded : namesOf (.object fields) name = .ok names) : Names entries names := by
  rcases bind_eq_ok_iff.mp loaded with ⟨table, tableLoaded, made⟩
  cases made
  have keeps := holds.keeps tableLoaded
  constructor
  · intro token value last
    rw [Table.find?_map, (keeps.found token value).mpr last]
    rfl
  · intro token lacks
    rw [Table.find?_map, (keeps.lacking token).mpr lacks]
    rfl

end

theorem blobOf_eq_ok_iff {value : Value} {blob : List UInt8} :
    blobOf value = .ok blob ↔
      ∃ content, value = .text content ∧ HexText.Spells content.chars blob := by
  cases value with
  | text content =>
      simp only [blobOf, Value.text.injEq, exists_eq_left', ← HexText.read_eq_ok_iff]
      cases HexText.read content.chars <;> simp [Except.mapError]
  | _ => simp [blobOf]

theorem Holds.blobs_succeed_iff {fields entries : List (WideText × Value)} {name : String}
    (holds : Holds fields name entries) :
    (∃ table blobs, tableOf (.object fields) name = .ok table ∧ table.mapM blobOf = .ok blobs) ↔
      (∀ entry ∈ entries, ∃ token, Numeral.readSpelled entry.1 = .ok token) ∧
      ∀ token value, IsLast entries token value →
        ∃ content blob, value = .text content ∧ HexText.Spells content.chars blob := by
  constructor
  · rintro ⟨table, blobs, loaded, changed⟩
    have keeps := holds.keeps loaded
    refine ⟨holds.tableOf_succeeds_iff.mp ⟨table, loaded⟩, ?_⟩
    intro token value last
    rcases keeps.distinct.mapM_succeeds_iff.mp ⟨blobs, changed⟩ token value
      ((keeps.found token value).mpr last) with ⟨blob, read⟩
    rcases blobOf_eq_ok_iff.mp read with ⟨content, same, spells⟩
    exact ⟨content, blob, same, spells⟩
  · rintro ⟨reads, spelled⟩
    rcases holds.tableOf_succeeds_iff.mpr reads with ⟨table, loaded⟩
    have keeps := holds.keeps loaded
    have changes (token : Int) (value : Value) (found : table.find? token = some value) :
        ∃ blob, blobOf value = .ok blob := by
      rcases spelled token value ((keeps.found token value).mp found) with
        ⟨content, blob, same, spells⟩
      exact ⟨blob, blobOf_eq_ok_iff.mpr ⟨content, same, spells⟩⟩
    rcases keeps.distinct.mapM_succeeds_iff.mpr changes with ⟨blobs, changed⟩
    exact ⟨table, blobs, loaded, changed⟩

theorem ofValue_eq_ok_iff {data : Value} {tables : SymbolTables} :
    ofValue data = .ok tables ↔
      (∃ table, tableOf data "signatures" = .ok table ∧ table.mapM blobOf = .ok tables.signatures) ∧
      namesOf data "methods" = .ok tables.methods ∧ namesOf data "fields" = .ok tables.fields ∧
      namesOf data "types" = .ok tables.types ∧ namesOf data "strings" = .ok tables.strings ∧
      namesOf data "members" = .ok tables.members := by
  simp only [ofValue, bind_eq_ok_iff, pure, Except.pure, Except.ok.injEq]
  constructor
  · rintro ⟨table, loaded, _, blobs, _, methods, _, fields, _, types, _, strings, _, members, rfl⟩
    exact ⟨⟨table, loaded, blobs⟩, methods, fields, types, strings, members⟩
  · rintro ⟨⟨table, loaded, blobs⟩, methods, fields, types, strings, members⟩
    exact ⟨table, loaded, _, blobs, _, methods, _, fields, _, types, _, strings, _, members, rfl⟩

theorem tellsFailures_of_namesOf {data : Value} {name : String} {names : Table Symbol}
    (loaded : namesOf data name = .ok names) : ∀ entry ∈ names.entries, entry.2.TellsFailures := by
  simp only [namesOf, bind_eq_ok_iff, pure, Except.pure, Except.ok.injEq] at loaded
  rcases loaded with ⟨table, _, rfl⟩
  intro entry member
  rcases List.mem_map.mp member with ⟨⟨token, value⟩, _, rfl⟩
  exact Symbol.tellsFailures_plain value

/-- Tables that are loaded from a file hold plain data only, so they fail with a text only. -/
theorem tellFailures_of_ofFile {bytes : List UInt8} {tables : SymbolTables}
    (loaded : ofFile bytes = .ok tables) : tables.TellFailures := by
  rcases bind_eq_ok_iff.mp loaded with ⟨_, _, loaded⟩
  rcases bind_eq_ok_iff.mp loaded with ⟨data, _, loaded⟩
  rcases ofValue_eq_ok_iff.mp loaded with ⟨_, methods, fields, types, strings, members⟩
  intro table listed
  simp only [symbolTables, List.mem_cons, List.not_mem_nil, or_false] at listed
  rcases listed with rfl | rfl | rfl | rfl | rfl
  · exact tellsFailures_of_namesOf methods
  · exact tellsFailures_of_namesOf fields
  · exact tellsFailures_of_namesOf types
  · exact tellsFailures_of_namesOf strings
  · exact tellsFailures_of_namesOf members

/-! ## Lookups -/

/-- The tables in which a token of a kind is looked up, in this order. -/
def searched : ReferenceKind → List String
  | .method => ["methods"]
  | .field => ["fields"]
  | .type => ["types"]
  | .string => ["strings"]
  | .member => ["members", "methods", "fields", "types"]
  | .signature => ["signatures"]

/-- The first table that has the token, among those with these names, has this value for it. -/
inductive FirstHas (entries : String → List (WideText × Value)) (token : Int) (value : Value) :
    List String → Prop where
  | here (name : String) (names : List String) (last : IsLast (entries name) token value) :
      FirstHas entries token value (name :: names)
  | behind (name : String) (names : List String) (lacks : Lacks (entries name) token)
      (later : FirstHas entries token value names) : FirstHas entries token value (name :: names)

/-- The tables of names among these. -/
def nameTables (tables : SymbolTables) : ReferenceKind → List (Table Symbol)
  | .method => [tables.methods]
  | .field => [tables.fields]
  | .type => [tables.types]
  | .string => [tables.strings]
  | .member => [tables.members, tables.methods, tables.fields, tables.types]
  | .signature => []

/-- What a lookup makes of the value of an entry. -/
inductive Renders : ReferenceKind → Value → Except ResolveError Value → Prop where
  | name (kind : ReferenceKind) (value : Value) (content : WideText)
      (plain : kind ≠ .string ∧ kind ≠ .signature) (shown : value.rendering = .ok content) :
      Renders kind value (.ok (.text content))
  | literal (value : Value) (content : WideText) (shown : value.rendering = .ok content) :
      Renders .string value (.ok (.text (Symbol.literalRendering content)))
  | blob (content : WideText) (bytes : List UInt8) (spells : HexText.Spells content.chars bytes) :
      Renders .signature (.text content) (.ok (.bytes bytes))
  /-- A number in the value is too long to be written. -/
  | unwritable (kind : ReferenceKind) (value : Value) (error : NumeralError)
      (named : kind ≠ .signature) (long : ¬ value.IsWritable)
      (failed : value.rendering = .error error) :
      Renders kind value (.error (.host (.ofNumeralError error)))

/-- What a lookup makes of a value whose numbers can all be written. -/
theorem Renders.exists_answer {kind : ReferenceKind} {value : Value}
    {outcome : Except ResolveError Value} (renders : Renders kind value outcome)
    (short : value.IsWritable) : ∃ answer, outcome = .ok answer := by
  cases renders with
  | unwritable _ _ _ _ long => exact absurd short long
  | _ => exact ⟨_, rfl⟩

theorem exists_renders {kind : ReferenceKind} (value : Value) (named : kind ≠ .signature) :
    Renders kind value (((value.rendering.mapError HostFailure.ofNumeralError).map fun content =>
      .text (if kind = .string then Symbol.literalRendering content else content)).mapError
        ResolveError.host) := by
  cases shown : value.rendering with
  | error error =>
      refine .unwritable kind value error named (fun short => ?_) shown
      rcases value.exists_rendering short with ⟨content, same⟩
      rw [shown] at same
      cases same
  | ok content =>
      by_cases literal : kind = .string
      · subst literal
        exact .literal value content shown
      · have answer : Renders kind value (.ok (.text content)) :=
          .name kind value content ⟨literal, named⟩ shown
        simpa [Except.map, Except.mapError, literal] using answer

section

variable {fields : List (WideText × Value)} {entries : String → List (WideText × Value)}

theorem ofValue_succeeds_iff (holds : ∀ name ∈ tableNames, Holds fields name (entries name)) :
    (∃ tables, ofValue (.object fields) = .ok tables) ↔
      (∀ name ∈ tableNames, ∀ entry ∈ entries name,
        ∃ token, Numeral.readSpelled entry.1 = .ok token) ∧
      ∀ token value, IsLast (entries "signatures") token value →
        ∃ content blob, value = .text content ∧ HexText.Spells content.chars blob := by
  simp only [tableNames, List.forall_mem_cons] at holds ⊢
  rcases holds with ⟨signatures, methods, fieldNames, types, strings, members, _⟩
  rw [← signatures.tableOf_succeeds_iff, ← methods.namesOf_succeeds_iff,
    ← fieldNames.namesOf_succeeds_iff, ← types.namesOf_succeeds_iff,
    ← strings.namesOf_succeeds_iff, ← members.namesOf_succeeds_iff]
  have blobs := signatures.blobs_succeed_iff
  rw [← signatures.tableOf_succeeds_iff] at blobs
  constructor
  · rintro ⟨tables, loaded⟩
    rcases ofValue_eq_ok_iff.mp loaded with
      ⟨⟨table, loaded, changed⟩, methods, fieldNames, types, strings, members⟩
    exact ⟨⟨⟨table, loaded⟩, ⟨_, methods⟩, ⟨_, fieldNames⟩, ⟨_, types⟩, ⟨_, strings⟩, ⟨_, members⟩,
      by simp⟩, (blobs.mp ⟨table, _, loaded, changed⟩).2⟩
  · rintro ⟨⟨loaded, ⟨_, methods⟩, ⟨_, fieldNames⟩, ⟨_, types⟩, ⟨_, strings⟩, ⟨_, members⟩, _⟩,
      spelled⟩
    rcases blobs.mpr ⟨loaded, spelled⟩ with ⟨table, _, loaded, changed⟩
    exact ⟨⟨_, _, _, _, _, _⟩, ofValue_eq_ok_iff.mpr
      ⟨⟨table, loaded, changed⟩, methods, fieldNames, types, strings, members⟩⟩

section

variable {names : List String} {listed : List (Table Symbol)} {token : Int}

theorem FirstHas.findSome?_eq
    (each : List.Forall₂ (fun name table => Names (entries name) table) names listed)
    {value : Value} (first : FirstHas entries token value names) :
    listed.findSome? (·.find? token) = some (.plain value) := by
  induction each with
  | nil => cases first
  | cons own _ induction =>
      cases first with
      | here _ _ last => rw [List.findSome?_cons, own.found token value last]
      | behind _ _ lacks later =>
          rw [List.findSome?_cons, own.lacking token lacks]
          exact induction later

theorem findSome?_eq_none
    (each : List.Forall₂ (fun name table => Names (entries name) table) names listed)
    (lacks : ∀ name ∈ names, Lacks (entries name) token) :
    listed.findSome? (·.find? token) = none := by
  induction each with
  | nil => rfl
  | cons own _ induction =>
      rw [List.forall_mem_cons] at lacks
      rw [List.findSome?_cons, own.lacking token lacks.1]
      exact induction lacks.2

end

theorem member?_eq_findSome? (tables : SymbolTables) (token : Int) :
    tables.member? token = (tables.nameTables .member).findSome? (·.find? token) := by
  simp only [member?, nameTables, List.findSome?_cons, List.findSome?_nil]
  cases tables.members.find? token <;> cases tables.methods.find? token <;>
    cases tables.fields.find? token <;> cases tables.types.find? token <;> rfl

/-- A kind whose tokens have names is looked up in the tables of names. -/
theorem resolve_names {tables : SymbolTables} {kind : ReferenceKind} (named : kind ≠ .signature)
    (token : Int) :
    (∀ value, (tables.nameTables kind).findSome? (·.find? token) = some (.plain value) →
      Renders kind value (tables.resolve kind token)) ∧
    ((tables.nameTables kind).findSome? (·.find? token) = none →
      tables.resolve kind token = .error (.unresolved (.notInTable kind token))) := by
  have single (table : Table Symbol) : [table].findSome? (·.find? token) = table.find? token := by
    cases found : table.find? token <;> simp [found]
  constructor
  · intro value found
    have renders := exists_renders value named
    cases kind with
    | signature => exact absurd rfl named
    | member =>
        rw [← member?_eq_findSome?] at found
        simpa [resolve, found, Symbol.memberRendering, Symbol.rendering] using renders
    | _ =>
        rw [nameTables, single] at found
        simpa [resolve, found, Symbol.rendering] using renders
  · intro missing
    cases kind with
    | signature => exact absurd rfl named
    | member =>
        rw [← member?_eq_findSome?] at missing
        simp [resolve, missing]
    | _ =>
        rw [nameTables, single] at missing
        simp [resolve, missing]

theorem resolve_blobs {table : Table Value} {own : List (WideText × Value)}
    (keeps : Keeps table own) {tables : SymbolTables}
    (changed : table.mapM blobOf = .ok tables.signatures) (token : Int) :
    (∀ value, IsLast own token value →
      Renders .signature value (tables.resolve .signature token)) ∧
    (Lacks own token →
      tables.resolve .signature token = .error (.unresolved (.notInTable .signature token))) := by
  have blobs := Table.find?_of_mapM changed token
  generalize result : tables.signatures.find? token = blob at blobs
  constructor
  · intro value last
    rw [(keeps.found token value).mpr last] at blobs
    rcases blobs with @⟨_, blob, read⟩
    rcases blobOf_eq_ok_iff.mp read with ⟨content, rfl, spells⟩
    simpa [resolve, result, Except.mapError] using Renders.blob content blob spells
  · intro lacks
    rw [(keeps.lacking token).mpr lacks] at blobs
    cases blobs
    simp [resolve, result]

theorem resolve_of_loaded (holds : ∀ name ∈ tableNames, Holds fields name (entries name))
    {tables : SymbolTables} (loaded : ofValue (.object fields) = .ok tables)
    (kind : ReferenceKind) (token : Int) :
    (∀ value, FirstHas entries token value (searched kind) →
      Renders kind value (tables.resolve kind token)) ∧
    ((∀ name ∈ searched kind, Lacks (entries name) token) →
      tables.resolve kind token = .error (.unresolved (.notInTable kind token))) := by
  simp only [tableNames, List.forall_mem_cons] at holds
  rcases holds with ⟨signatures, methods, fieldNames, types, strings, members, _⟩
  rcases ofValue_eq_ok_iff.mp loaded with ⟨⟨table, tableLoaded, changed⟩, loaded⟩
  by_cases blobs : kind = .signature
  · subst blobs
    rcases resolve_blobs (signatures.keeps tableLoaded) changed token with ⟨found, missing⟩
    refine ⟨?_, fun lacks => missing (lacks _ List.mem_cons_self)⟩
    rintro value (⟨_, _, last⟩ | ⟨_, _, _, ⟨⟩⟩)
    exact found value last
  · have each : List.Forall₂ (fun name table => Names (entries name) table) (searched kind)
        (tables.nameTables kind) := by
      have methods := methods.names loaded.1
      have fieldNames := fieldNames.names loaded.2.1
      have types := types.names loaded.2.2.1
      have strings := strings.names loaded.2.2.2.1
      have members := members.names loaded.2.2.2.2
      cases kind <;> simp_all [searched, nameTables]
    rcases tables.resolve_names blobs token with ⟨found, missing⟩
    exact ⟨fun value first => found value (first.findSome?_eq each),
      fun lacks => missing (findSome?_eq_none each lacks)⟩

end

/--
Tables load exactly if every key reads as a token and the last signature of each token spells a
blob. A lookup then answers with the value of the last entry for the token, in the first table that
has one, and fails if there is none, or if the value holds a number that is too long to be written; a
number may be spelled in three ways, all for one token.
-/
theorem lookups_by_last_spelling (fields : List (WideText × Value))
    (entries : String → List (WideText × Value))
    (holds : ∀ name ∈ tableNames, Holds fields name (entries name)) :
    ((∃ tables, ofValue (.object fields) = .ok tables) ↔
      (∀ name ∈ tableNames, ∀ entry ∈ entries name,
        ∃ token, Numeral.readSpelled entry.1 = .ok token) ∧
      ∀ token value, IsLast (entries "signatures") token value →
        ∃ content blob, value = .text content ∧ HexText.Spells content.chars blob) ∧
    (∀ tables, ofValue (.object fields) = .ok tables → ∀ kind token,
      (∀ value, FirstHas entries token value (searched kind) →
        Renders kind value (tables.resolve kind token) ∧
        (value.IsWritable → ∃ answer, tables.resolve kind token = .ok answer)) ∧
      ((∀ name ∈ searched kind, Lacks (entries name) token) →
        tables.resolve kind token =
          .error (.unresolved ⟨kind.name, token, "token not in symbol table"⟩))) ∧
    ∀ width number : Nat,
      Numeral.readSpelled ("0x" ++ Hex.padded width number) = .ok number ∧
      Numeral.readSpelled ("$" ++ Hex.padded width number) = .ok number ∧
      (number.repr.length ≤ Numeral.maxDigits → Numeral.readSpelled number.repr = .ok number) := by
  refine ⟨ofValue_succeeds_iff holds, ?_, Numeral.readSpelled_spellings⟩
  intro tables loaded kind token
  rcases resolve_of_loaded holds loaded kind token with ⟨found, missing⟩
  exact ⟨fun value first => ⟨found value first, (found value first).exists_answer⟩, missing⟩

/-- Two keys spell one token in each of two tables; the bad blob is not the last one. -/
theorem lookups_by_last_spelling_of_two_keys :
    let text (content : String) : Value := .text (.ofString content)
    let methods : List (WideText × Value) := [("0x10", text "a"), ("16", text "b")]
    let signatures : List (WideText × Value) := [("17", text "6"), ("$11", text "06 0a")]
    let fields : List (WideText × Value) :=
      [("methods", .object methods), ("types", .null), ("signatures", .object signatures)]
    ∃ tables, ofValue (.object fields) = .ok tables ∧
      tables.resolve .member 16 = .ok (text "b") ∧
      tables.resolve .signature 17 = .ok (.bytes [0x06, 0x0A]) ∧
      tables.resolve .field 16 =
        .error (.unresolved ⟨"field", 16, "token not in symbol table"⟩) := by
  intro text methods signatures fields
  let entries (name : String) : List (WideText × Value) :=
    if name = "methods" then methods else if name = "signatures" then signatures else []
  have holds : ∀ name ∈ tableNames, Holds fields name (entries name) := by
    simp only [tableNames, List.forall_mem_cons]
    exact ⟨.object _ rfl, .object _ rfl, .absent rfl, .void .null rfl rfl, .absent rfl, .absent rfl,
      by simp⟩
  have sixteen : Numeral.readSpelled "0x10" = .ok 16 ∧ Numeral.readSpelled "16" = .ok 16 :=
    ⟨rfl, rfl⟩
  have seventeen : Numeral.readSpelled "17" = .ok 17 ∧ Numeral.readSpelled "$11" = .ok 17 :=
    ⟨rfl, rfl⟩
  have blob : HexText.Spells (WideText.ofString "06 0a").chars [0x06, 0x0A] :=
    HexText.read_eq_ok_iff.mp rfl
  rcases lookups_by_last_spelling fields entries holds with ⟨succeeds, answers, _⟩
  have loads : ∃ tables, ofValue (.object fields) = .ok tables := by
    apply succeeds.mpr
    constructor
    · simp only [tableNames, List.forall_mem_cons]
      simp [entries, methods, signatures, sixteen, seventeen]
    · intro token value last
      rcases (@isLast_concat [("17", text "6")] _ _ _).mp last with ⟨_, rfl⟩ | ⟨differs, first⟩
      · exact ⟨_, _, rfl, blob⟩
      rcases (@isLast_concat [] _ _ _).mp first with ⟨reads, _⟩ | ⟨_, _, _, _, split, _⟩
      · exact absurd (seventeen.2.trans (seventeen.1.symm.trans reads)) differs
      · simp at split
  rcases loads with ⟨tables, loaded⟩
  refine ⟨tables, loaded, ?_, ?_, ?_⟩
  · have last : IsLast methods 16 (text "b") :=
      ⟨[("0x10", text "a")], "16", [], rfl, sixteen.2, by simp [Lacks]⟩
    have first : FirstHas entries 16 (text "b") (searched .member) :=
      .behind _ _ (by simp [Lacks, entries]) (.here _ _ last)
    have renders := ((answers tables loaded .member 16).1 _ first).1
    generalize tables.resolve .member 16 = outcome at renders ⊢
    cases renders with
    | name _ _ content _ shown =>
        cases shown
        rfl
    | unwritable _ _ _ _ _ failed => cases failed
  · have last : IsLast signatures 17 (text "06 0a") :=
      ⟨[("17", text "6")], "$11", [], rfl, seventeen.2, by simp [Lacks]⟩
    have renders := ((answers tables loaded .signature 17).1 _ (.here _ _ last)).1
    generalize tables.resolve .signature 17 = outcome at renders ⊢
    cases renders with
    | name _ _ _ plain => exact absurd rfl plain.2
    | blob _ bytes spells =>
        have same := (HexText.read_eq_ok_iff.mpr blob).symm.trans (HexText.read_eq_ok_iff.mpr spells)
        rw [Except.ok.inj same]
    | unwritable _ _ _ named => exact absurd rfl named
  · exact (answers tables loaded .field 16).2 (by simp [searched, Lacks, entries])

end SymbolTables

end CilTrace
