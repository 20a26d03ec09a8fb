/-
A document as the list of its entries. The entries are read one by one, each stored under the key it
names, so a document in two parts is read to the table of the first part with that of the second one over
it, and it is refused if any entry is. Keys are texts: what an entry names is spelled out, so the number
`1` and the text `"1"` are one key.
-/
import StagedRollout.Proofs.Flag.Accepted
import StagedRollout.Proofs.Value.Overlay

namespace StagedRollout.Document

/-! ## Entries -/

/-- A document with a list of flags and nothing else. -/
def ofEntries (entries : List Value) : Value := .object [(.text "flags", .list entries)]

/-- The key that an entry names, as a text. -/
def entryKey? (data : Value) : Option Key := (textField data "key").toOption.map .text

/-- The row of a flag. -/
def rowOf (flag : Flag) : Key × Flag := (flagKey flag, flag)

theorem entryKey?_of_read {data : Value} {f : Flag} (h : (readFlag data).outcome = .ok f) :
    entryKey? data = some (flagKey f) := by
  obtain ⟨s, hs, hk⟩ := (readFlag_reads h).key
  unfold entryKey? flagKey
  rw [hs, hk]
  rfl

theorem keys_of_entries {entries : List Value} {flags : List Flag}
    (h : entries.mapM (fun data => (readFlag data).outcome) = .ok flags) :
    entries.filterMap entryKey? = flags.map flagKey := by
  have hall := mapM_ok_iff.1 h
  clear h
  induction hall with
  | nil => rfl
  | cons hx _ ih => rw [List.filterMap_cons_some (entryKey?_of_read hx), ih]; rfl

/-! ## Reading entries -/

/-- Flags are read one by one and stored in order. -/
theorem readFlags_eq (t : Table Flag) (entries : List Value) :
    readFlags t entries = entries.mapM readFlag >>= fun flags =>
      pure ((flags.map rowOf).foldl (fun t row => Table.put t row.1 row.2) t) := by
  induction entries generalizing t with
  | nil => rfl
  | cons data rest ih =>
    rw [readFlags, List.mapM_cons, bind_assoc]
    refine bind_congr fun flag => ?_
    rw [ih, bind_assoc]
    refine bind_congr fun flags => ?_
    rw [pure_bind]
    rfl

/-- A document is the table of its flags. -/
theorem read_ofEntries (entries : List Value) :
    read (ofEntries entries) = (entries.mapM readFlag).mapFault wrap >>= fun flags =>
      pure (Table.ofRows (flags.map rowOf)) := by
  have hread : read (ofEntries entries) = (readFlags [] entries).mapFault wrap := by
    simp [read, ofEntries, Table.find?_cons_text, Reported.mapFault]
  rw [hread, readFlags_eq, Reported.mapFault_bind]
  rfl

theorem read_ofEntries_ok {entries : List Value} {flags : Table Flag}
    (h : (read (ofEntries entries)).outcome = .ok flags) :
    ∃ fs, entries.mapM (fun data => (readFlag data).outcome) = .ok fs ∧
      flags = Table.ofRows (fs.map rowOf) := by
  rw [read_ofEntries, Reported.outcome_bind] at h
  obtain ⟨fs, hfs, h⟩ := bind_ok h
  rw [← Reported.outcome_mapM]
  exact ⟨fs, mapError_ok hfs, (Except.ok.inj h).symm⟩

/-- One entry that cannot be read is enough for a document to be refused. -/
theorem read_ofEntries_returns_iff (entries : List Value) :
    Returns (read (ofEntries entries)).outcome ↔
      ∀ data ∈ entries, Returns (readFlag data).outcome := by
  constructor
  · rintro ⟨flags, h⟩
    obtain ⟨fs, hfs, -⟩ := read_ofEntries_ok h
    exact returns_of_mapM hfs
  · intro h
    obtain ⟨fs, hfs⟩ := returns_mapM h
    rw [← Reported.outcome_mapM] at hfs
    rw [read_ofEntries, Reported.outcome_bind]
    refine ⟨Table.ofRows (fs.map rowOf), ?_⟩
    show (entries.mapM readFlag).outcome.mapError wrap >>= _ = _
    rw [hfs]
    rfl

/-- The flags of a second part are laid over those of the first. -/
theorem read_ofEntries_append (xs ys : List Value) :
    read (ofEntries (xs ++ ys)) = (do
      let t ← read (ofEntries xs)
      let u ← read (ofEntries ys)
      return Table.overlaid t u) := by
  rw [read_ofEntries, read_ofEntries, read_ofEntries, List.mapM_append, Reported.mapFault_bind,
    bind_assoc, bind_assoc]
  refine bind_congr fun flags => ?_
  rw [Reported.mapFault_bind, bind_assoc, pure_bind, bind_assoc]
  refine bind_congr fun more => ?_
  rw [pure_bind, ← Table.ofRows_append, ← List.map_append]
  rfl

/-! ## What is stored -/

/-- The flag that was stored last under a key is the one that is found. -/
theorem find?_of_last {earlier later : List Flag} {f : Flag}
    (h : ∀ g ∈ later, flagKey g ≠ flagKey f) :
    Table.find? (Table.ofRows ((earlier ++ f :: later).map rowOf)) (flagKey f) = some f := by
  have hlater : Table.find? (later.map rowOf).reverse (flagKey f) = none := by
    refine Table.find?_eq_none_iff.2 fun row hr => ?_
    obtain ⟨g, hg, rfl⟩ := List.mem_map.1 (List.mem_reverse.1 hr)
    exact eq_false_of_ne_true fun hs => h g hg (Key.same_text.1 hs)
  have hself : (flagKey f).same (flagKey f) = true := Key.same_text.2 rfl
  rw [Table.find?_ofRows, List.map_append, List.map_cons, List.reverse_append, List.reverse_cons,
    Table.find?_append, Table.find?_append, hlater, Option.none_or]
  show (if (flagKey f).same (flagKey f) then some f else none).or _ = some f
  rw [if_pos hself]
  rfl

/-- A table as the entries of a document fill it: every flag is under its own key, keys are in the order
in which they first came, and each leads to what the last entry that names it was read to. -/
structure Stores (entries : List Value) (flags : Table Flag) : Prop where
  own : ∀ row ∈ flags, row.1 = flagKey row.2
  keys : flags.keys = (entries.filterMap entryKey?).eraseDups
  last : ∀ before data after, entries = before ++ data :: after →
    (∀ later ∈ after, entryKey? later ≠ entryKey? data) →
      ∃ f, (readFlag data).outcome = .ok f ∧ Table.find? flags (flagKey f) = some f

theorem stores_of_read {entries : List Value} {flags : Table Flag}
    (h : (read (ofEntries entries)).outcome = .ok flags) : Stores entries flags := by
  obtain ⟨fs, hfs, rfl⟩ := read_ofEntries_ok h
  refine ⟨fun row hr => (read_typed h row hr).2, ?_, ?_⟩
  · have htexts : ∀ row ∈ fs.map rowOf, ∃ s, row.1 = .text s := by
      intro row hr
      obtain ⟨f, -, rfl⟩ := List.mem_map.1 hr
      exact ⟨_, rfl⟩
    rw [Table.keys_ofRows htexts, List.map_map, keys_of_entries hfs]
    rfl
  · rintro before data after rfl hlast
    rw [List.mapM_append, List.mapM_cons] at hfs
    obtain ⟨earlier, -, hfs⟩ := bind_ok hfs
    obtain ⟨rest, hrest, hfs⟩ := bind_ok hfs
    obtain ⟨f, hf, hrest⟩ := bind_ok hrest
    obtain ⟨later, hlater, hrest⟩ := bind_ok hrest
    cases hrest
    cases hfs
    refine ⟨f, hf, find?_of_last fun g hg hsame => ?_⟩
    -- a later flag under this key would come from a later entry that names it
    have hmem : flagKey g ∈ after.filterMap entryKey? := by
      rw [keys_of_entries hlater]
      exact List.mem_map_of_mem hg
    obtain ⟨data', hd, hk⟩ := List.mem_filterMap.1 hmem
    refine hlast data' hd ?_
    rw [hk, hsame, entryKey?_of_read hf]

/-- A document in two parts is read exactly if both parts are, and it is then the table of the first part
with that of the second one over it: keys of the first part keep their place, new ones follow in order,
and a key of both leads to the flag of the second part. So a document is read exactly if each of its
entries is, and its table is filled by them in order. -/
theorem read_in_parts (xs ys : List Value) :
    (read (ofEntries (xs ++ ys)) = do
      let t ← read (ofEntries xs)
      let u ← read (ofEntries ys)
      return Table.overlaid t u) ∧
    (∀ flags, (read (ofEntries (xs ++ ys))).outcome = .ok flags ↔
      ∃ t u, (read (ofEntries xs)).outcome = .ok t ∧ (read (ofEntries ys)).outcome = .ok u ∧
        flags = Table.overlaid t u) ∧
    (∀ t u : Table Flag,
      (Table.overlaid t u).keys = t.keys ++ u.keys.filter (fun k => (Table.find? t k).isNone) ∧
      ∀ key, Table.find? (Table.overlaid t u) key = (Table.find? u key).or (Table.find? t key)) ∧
    (Returns (read (ofEntries xs)).outcome ↔ ∀ data ∈ xs, Returns (readFlag data).outcome) ∧
    ∀ flags, (read (ofEntries xs)).outcome = .ok flags → Stores xs flags := by
  have hjoin := read_ofEntries_append xs ys
  refine ⟨hjoin, fun flags => ?_, fun t u => ⟨Table.keys_overlaid t u, Table.find?_overlaid t u⟩,
    read_ofEntries_returns_iff xs, fun flags => stores_of_read⟩
  rw [hjoin, Reported.outcome_bind]
  constructor
  · intro h
    obtain ⟨t, ht, h⟩ := bind_ok h
    rw [Reported.outcome_bind] at h
    obtain ⟨u, hu, h⟩ := bind_ok h
    exact ⟨t, u, ht, hu, (Except.ok.inj h).symm⟩
  · rintro ⟨t, u, ht, hu, rfl⟩
    rw [ht]
    show ((read (ofEntries ys)) >>= _).outcome = _
    rw [Reported.outcome_bind, hu]
    rfl

/-- The number one and the text that spells it: the later entry takes the place of the earlier one. -/
theorem read_in_parts_of_number_and_text :
    let entry (key : Value) (name : String) : Value :=
      .object [(.text "key", key), (.text "name", .text name)]
    let entries := [entry (.int 1) "first", entry (.text "x") "other", entry (.text "1") "second"]
    ∃ flags, (read (ofEntries entries)).outcome = .ok flags ∧ Stores entries flags ∧
      flags.keys = [.text "1", .text "x"] ∧
      (Table.find? flags (.text "1")).map (·.name.asText) = some "second" := by
  intro entry entries
  have hshown : (read (ofEntries entries)).outcome.toOption.map (fun flags =>
      (flags.keys, (Table.find? flags (.text "1")).map (·.name.asText))) =
      some (([.text "1", .text "x"] : List Key), some ("second" : Text)) := by decide +kernel
  cases hf : (read (ofEntries entries)).outcome with
  | error e =>
    rw [hf] at hshown
    cases hshown
  | ok flags =>
    rw [hf] at hshown
    obtain ⟨hkeys, hname⟩ := Prod.mk.inj (Option.some.inj hshown)
    exact ⟨flags, rfl, (read_in_parts entries []).2.2.2.2 flags hf, hkeys, hname⟩

end StagedRollout.Document
