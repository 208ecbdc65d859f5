import Mathlib.Data.List.Nodup
import Mathlib.Tactic.SplitIfs
import SearchPath.Container.Archive
import SearchPath.Proofs.Table
import SearchPath.Proofs.Text.Order

/-!
# The resources of an archive

An archive lists the titles of its entries without the directory of the layout, and puts the
directory in front of a path to find an entry again.

1. `resourcePath?` takes from a title the path that `titleOf` puts back, and nothing else
   (`resourcePath?_eq_some_iff`). So a path is listed if it is not empty and an entry has its title
   (`mem_paths`), wherever in the title the directory may come again.
2. Entries are found by their stored names. If those spell the titles (`ExactNames`), a path leads
   to the one entry of its title (`octets_of_mem`).
3. Main result (`consistent_of_exactNames`): for every layout, what is listed is what can be read,
   and nothing is read but what stands in the directory of the layout.
-/

namespace SearchPath

open SearchPath.Archive SearchPath.Text

/-! ## Tables of entries -/

namespace Archive

/-- The stored names are distinct, and each spells the title of its entry. -/
structure ExactNames (entries : Table (List UInt8) Entry) : Prop where
  nodup : entries.names.Nodup
  name_eq : ∀ named ∈ entries.entries, named.1 = encode named.2.title

variable {entries : Table (List UInt8) Entry} {entry : Entry} {title : List Char}

theorem ExactNames.map_encode (h : ExactNames entries) :
    (entries.values.map (·.title)).map encode = entries.names := by
  rw [Table.values, Table.names, List.map_map, List.map_map]
  exact List.map_congr_left fun named hm => (h.name_eq named hm).symm

theorem ExactNames.nodup_titles (h : ExactNames entries) :
    (entries.values.map (·.title)).Nodup := by
  refine List.Nodup.of_map encode ?_
  rw [h.map_encode]
  exact h.nodup

/-- An entry is found by its title. -/
theorem ExactNames.get?_eq_some_iff (h : ExactNames entries) :
    entries.get? (encode title) = some entry ↔ entry ∈ entries.values ∧ entry.title = title := by
  constructor
  · intro hget
    have hname := h.name_eq _ (Table.mem_of_get? hget)
    exact ⟨Table.mem_values_of_get? hget, (encode_injective hname).symm⟩
  · rintro ⟨hm, rfl⟩
    obtain ⟨⟨name, found⟩, hfound, rfl⟩ := List.mem_map.1 hm
    have hname : name = encode found.title := h.name_eq _ hfound
    rw [← hname]
    exact Table.get?_of_mem h.nodup hfound

theorem decodeEntry_ne_missing (entry : Entry) (stored : List UInt8) (path : String) :
    decodeEntry entry stored ≠ .error (.missingResource path) := by
  unfold decodeEntry
  split_ifs
  · exact nofun
  · split
    · exact nofun
    · split <;> exact nofun
    · exact nofun

/-- An entry that is there is not missing, whether or not it can be decoded. -/
theorem entryOctets_ne_missing (offset : Nat) (bytes : List UInt8) (entry : Entry)
    (path : String) : entryOctets offset bytes entry ≠ .error (.missingResource path) := by
  unfold entryOctets
  split_ifs
  · exact nofun
  · cases storedOctets offset bytes entry with
    | error fault => cases fault <;> exact nofun
    | ok stored =>
      dsimp only
      cases hdecode : decodeEntry entry stored with
      | error e =>
        intro he
        exact decodeEntry_ne_missing entry stored path (hdecode.trans he)
      | ok decoded =>
        dsimp only
        split_ifs <;> exact nofun

end Archive

/-! ## Titles and paths -/

namespace ArchiveContainer

variable {archive : ArchiveContainer} {layout : ArchiveLayout} {path : String} {entry : Entry}
  {title : List Char} {content : List UInt8}

/-- The title of the entry that a path leads to. -/
def titleOf (layout : ArchiveLayout) (path : String) : List Char :=
  layout.directory.toList ++ path.toList

theorem toList_append_eq_titleOf (layout : ArchiveLayout) (path : String) :
    (layout.directory ++ path).toList = titleOf layout path :=
  String.toList_append

/-- **Titles and paths.** A title has the path that it is made of, unless that is empty. -/
theorem resourcePath?_eq_some_iff :
    resourcePath? layout title = some path ↔ path ≠ "" ∧ title = titleOf layout path := by
  unfold resourcePath?
  constructor
  · intro h
    split at h
    next c rest hstrip =>
      obtain rfl := Option.some.inj h
      refine ⟨by simp, ?_⟩
      rw [titleOf, String.toList_ofList]
      exact stripStart_eq_some_iff.1 hstrip
    next => cases h
  · rintro ⟨hne, rfl⟩
    rw [titleOf, stripStart_eq_some_iff.2 rfl]
    cases hpath : path.toList with
    | nil => exact absurd (String.toList_eq_nil_iff.1 hpath) hne
    | cons c rest =>
      show some (String.ofList (c :: rest)) = some path
      rw [← hpath, String.ofList_toList]

/-- The titles of the entries, in the order of the archive. -/
def titles (archive : ArchiveContainer) : List (List Char) :=
  archive.entries.values.map (·.title)

theorem paths_eq (archive : ArchiveContainer) :
    archive.paths = archive.titles.filterMap (resourcePath? archive.layout) := by
  unfold titles
  rw [List.filterMap_map]
  rfl

theorem mem_paths :
    path ∈ archive.paths ↔ path ≠ "" ∧ titleOf archive.layout path ∈ archive.titles := by
  rw [paths_eq, List.mem_filterMap]
  constructor
  · rintro ⟨title, hm, hpath⟩
    obtain ⟨hne, rfl⟩ := resourcePath?_eq_some_iff.1 hpath
    exact ⟨hne, hm⟩
  · rintro ⟨hne, hm⟩
    exact ⟨_, hm, resourcePath?_eq_some_iff.2 ⟨hne, rfl⟩⟩

/-- Paths stand in the order of the entries that they lead to. -/
theorem map_paths_sublist (archive : ArchiveContainer) :
    (archive.paths.map (titleOf archive.layout)).Sublist archive.titles := by
  rw [paths_eq]
  induction archive.titles with
  | nil => exact List.Sublist.slnil
  | cons title titles ih =>
    cases hpath : resourcePath? archive.layout title with
    | none =>
      rw [List.filterMap_cons_none hpath]
      exact ih.cons title
    | some path =>
      obtain ⟨-, rfl⟩ := resourcePath?_eq_some_iff.1 hpath
      rw [List.filterMap_cons_some hpath, List.map_cons]
      exact ih.cons_cons _

/-! ## Reading -/

theorem octets_eq (archive : ArchiveContainer) (path : String) :
    archive.octets path =
      match archive.entries.get? (encode (titleOf archive.layout path)) with
      | none => .error (.missingResource path)
      | some entry => entryOctets archive.layout.offset archive.bytes entry := by
  rw [← toList_append_eq_titleOf]
  rfl

/-- A path leads to the entry of its title. -/
theorem octets_of_mem (h : ExactNames archive.entries) (hm : entry ∈ archive.entries.values)
    (htitle : entry.title = titleOf archive.layout path) :
    archive.octets path = entryOctets archive.layout.offset archive.bytes entry := by
  rw [octets_eq, h.get?_eq_some_iff.2 ⟨hm, htitle⟩]

theorem octets_eq_missing_iff (h : ExactNames archive.entries) :
    archive.octets path = .error (.missingResource path) ↔
      titleOf archive.layout path ∉ archive.titles := by
  constructor
  · intro hmissing hm
    obtain ⟨entry, hentry, htitle⟩ := List.mem_map.1 hm
    rw [octets_of_mem h hentry htitle] at hmissing
    exact entryOctets_ne_missing _ _ _ _ hmissing
  · intro hm
    rw [octets_eq]
    cases hget : archive.entries.get? (encode (titleOf archive.layout path)) with
    | none => rfl
    | some entry =>
      obtain ⟨hentry, htitle⟩ := h.get?_eq_some_iff.1 hget
      exact absurd (List.mem_map.2 ⟨entry, hentry, htitle⟩) hm

/-- Whatever is read is the content of an entry in the directory of the layout. -/
theorem exists_entry_of_octets (h : ExactNames archive.entries)
    (hread : archive.octets path = .ok content) :
    ∃ entry ∈ archive.entries.values, entry.title = titleOf archive.layout path ∧
      entryOctets archive.layout.offset archive.bytes entry = .ok content := by
  rw [octets_eq] at hread
  split at hread
  next => cases hread
  next entry hget =>
    obtain ⟨hm, htitle⟩ := h.get?_eq_some_iff.1 hget
    exact ⟨entry, hm, htitle, hread⟩

/-- The listing of an archive and reading from it agree. -/
structure Consistent (archive : ArchiveContainer) : Prop where
  nodup : archive.paths.Nodup
  mem_iff : ∀ path, path ∈ archive.paths ↔
    path ≠ "" ∧ titleOf archive.layout path ∈ archive.titles
  in_order : (archive.paths.map (titleOf archive.layout)).Sublist archive.titles
  missing_iff : ∀ path, path ≠ "" →
    (archive.octets path = .error (.missingResource path) ↔ path ∉ archive.paths)
  /-- A path that is listed is read from the only entry of its title. -/
  reads : ∀ path ∈ archive.paths, ∃ entry ∈ archive.entries.values,
    (∀ other ∈ archive.entries.values,
      other.title = titleOf archive.layout path ↔ other = entry) ∧
    archive.octets path = entryOctets archive.layout.offset archive.bytes entry
  /-- No path at all, be it listed or not, leads out of the directory. -/
  inside : ∀ path content, archive.octets path = .ok content →
    ∃ entry ∈ archive.entries.values, archive.layout.directory.toList <+: entry.title ∧
      entryOctets archive.layout.offset archive.bytes entry = .ok content

/-- **The resources of an archive.** In a jar, a jmod, or an archive of any other layout, whose
entries are found by their titles, the paths that are listed are those that can be read. They are
the titles in the directory of the layout, in the order of the archive. -/
theorem consistent_of_exactNames (h : ExactNames archive.entries) : Consistent archive where
  nodup := List.Nodup.of_map _ (h.nodup_titles.sublist archive.map_paths_sublist)
  mem_iff _ := mem_paths
  in_order := archive.map_paths_sublist
  missing_iff path hne := by
    rw [octets_eq_missing_iff h, mem_paths, not_and]
    exact ⟨fun hm _ => hm, fun hm => hm hne⟩
  reads path hpath := by
    obtain ⟨entry, hm, htitle⟩ := List.mem_map.1 (mem_paths.1 hpath).2
    refine ⟨entry, hm, fun other ho => ⟨fun hother => ?_, ?_⟩, octets_of_mem h hm htitle⟩
    · exact List.inj_on_of_nodup_map h.nodup_titles ho hm (hother.trans htitle.symm)
    · rintro rfl
      exact htitle
  inside path content hread := by
    obtain ⟨entry, hm, htitle, hcontent⟩ := exists_entry_of_octets h hread
    exact ⟨entry, hm, htitle ▸ List.prefix_append _ _, hcontent⟩

/-- An archive behind a header in which `classes` is a directory and has one of the same name in it,
and in which there is also a file outside. -/
theorem consistent_of_classes :
    let entry (title : String) (checksum position : Nat) : List UInt8 × Entry :=
      (encode title.toList, ⟨encode title.toList, title.toList, [], 0, false, false, checksum, 1, 1,
        position⟩)
    let header : List UInt8 := headerMark ++ List.replicate 26 0
    let archive : ArchiveContainer := ⟨.jmod, header ++ [1] ++ header ++ [2] ++ header ++ [3],
      ⟨[entry "classes/" 0 0, entry "lib/x" 0xA505DF1B 0, entry "classes/classes/x" 0x3C0C8EA1 31,
        entry "classes/../lib/x" 0x4B0BBE37 62]⟩⟩
    ExactNames archive.entries ∧ Consistent archive ∧
      archive.paths = ["classes/x", "../lib/x"] ∧
      archive.octets "classes/x" = .ok [2] ∧ archive.octets "../lib/x" = .ok [3] ∧
      archive.octets "lib/x" = .error (.missingResource "lib/x") := by
  intro entry header archive
  have hexact : ExactNames archive.entries := ⟨by decide +kernel, by decide +kernel⟩
  have hconsistent := consistent_of_exactNames hexact
  have hpaths : archive.paths = ["classes/x", "../lib/x"] := by decide +kernel
  refine ⟨hexact, hconsistent, hpaths, by decide +kernel, by decide +kernel, ?_⟩
  rw [hconsistent.missing_iff "lib/x" (by decide), hpaths]
  decide

end ArchiveContainer

end SearchPath
