import CommandPlan.Proofs.FileChanges
import CommandPlan.Proofs.PathParent
import CommandPlan.Proofs.RunEffects
import CommandPlan.Proofs.TextEncoding

/-! What a directory holds. Listing it gives the entries one step below its place,
each once and under the octets of its name. Where these are a text, a path leads to the
entry. Such a name is plain wherever it came from a path, because an entry is only ever
put at the last step of one. -/
namespace CommandPlan.DirectoryNames
open FileSystem FileGrowth PathWalk PathTarget FileChanges PathJoin PathParent RunEffects TextEncoding

variable {files after : FileSystem} {place location start directory : Location} {name : String}
variable {entry fresh : Entry} {entries : List (Location × Entry)} {steps ahead rest : List String}
variable {octets : List UInt8} {path linked : Path} {target : Target} {purpose : Purpose} {links : Nat} {followLast slash : Bool}

/-! ## The names in a directory -/

theorem lookup_eq_some_iff_mem (unique : (entries.map (·.1)).Nodup) :
    entries.lookup location = some entry ↔ (location, entry) ∈ entries := by
  induction entries with
  | nil => simp
  | cons head entries ih =>
    obtain ⟨other, held⟩ := head
    obtain ⟨absent, unique⟩ := List.nodup_cons.mp unique
    rw [lookup_at, List.mem_cons, Prod.mk.injEq]
    by_cases same : location = other
    · subst same
      have nowhere : (location, entry) ∉ entries := fun member => absent (List.mem_map.mpr ⟨_, member, rfl⟩)
      simp [nowhere, eq_comm]
    · simp [same, ih unique]

theorem mem_spelled_names_iff :
    (name, entry) ∈ files.spelledNames place ↔ files.entry? (place ++ [name]) = some entry := by
  rw [entry_below, lookup_eq_some_iff_mem files.unique, spelledNames, List.mem_filterMap]
  constructor
  · rintro ⟨⟨other, held⟩, member, found⟩
    obtain ⟨below, last⟩ := Option.ite_none_right_eq_some.mp found
    obtain ⟨final, ends, same⟩ := Option.map_eq_some_iff.mp last
    cases same
    obtain ⟨above, rfl⟩ := List.getLast?_eq_some_iff.mp ends
    rw [List.dropLast_concat] at below
    exact below ▸ member
  · intro member
    exact ⟨_, member, by simp⟩

theorem spelled_names_nodup (files : FileSystem) (place : Location) :
    ((files.spelledNames place).map (·.1)).Nodup := by
  have apart : files.entries.Pairwise fun first second => first.1 ≠ second.1 := List.pairwise_map.mp files.unique
  rw [List.Nodup, List.pairwise_map, spelledNames, List.pairwise_filterMap]
  refine apart.imp fun {first second} differ firstFound found secondFound also same => differ ?_
  obtain ⟨firstBelow, firstLast⟩ := Option.ite_none_right_eq_some.mp found
  obtain ⟨secondBelow, secondLast⟩ := Option.ite_none_right_eq_some.mp also
  obtain ⟨firstName, firstEnds, rfl⟩ := Option.map_eq_some_iff.mp firstLast
  obtain ⟨secondName, secondEnds, rfl⟩ := Option.map_eq_some_iff.mp secondLast
  obtain ⟨firstAbove, firstSpelled⟩ := List.getLast?_eq_some_iff.mp firstEnds
  obtain ⟨secondAbove, secondSpelled⟩ := List.getLast?_eq_some_iff.mp secondEnds
  rw [firstSpelled, List.dropLast_concat] at firstBelow
  rw [secondSpelled, List.dropLast_concat] at secondBelow
  rw [firstSpelled, secondSpelled, firstBelow, secondBelow, show firstName = secondName from same]

theorem mem_unspelled_names_iff :
    (octets, entry) ∈ files.unspelledNames place ↔ ((place, octets), entry) ∈ files.unspelled := by
  rw [unspelledNames, List.mem_filterMap]
  constructor
  · rintro ⟨⟨⟨directory, name⟩, held⟩, member, found⟩
    obtain ⟨rfl, same⟩ := Option.ite_none_right_eq_some.mp found
    cases same
    exact member
  · intro member
    exact ⟨_, member, if_pos rfl⟩

theorem unspelled_names_nodup (files : FileSystem) (place : Location) :
    ((files.unspelledNames place).map (·.1)).Nodup := by
  have apart := List.pairwise_map.mp files.uniqueUnspelled
  rw [List.Nodup, List.pairwise_map, unspelledNames, List.pairwise_filterMap]
  refine apart.imp fun {first second} differ firstFound found secondFound also same => differ ?_
  obtain ⟨firstHere, firstSame⟩ := Option.ite_none_right_eq_some.mp found
  obtain ⟨secondHere, secondSame⟩ := Option.ite_none_right_eq_some.mp also
  cases firstSame
  cases secondSame
  exact Prod.ext (firstHere.trans secondHere.symm) same

/-- No text is encoded to a name that is none. -/
theorem not_unspelled_encode (text : List Char) : ((place, Utf8.encode text), entry) ∉ files.unspelled := by
  intro member
  have noText := files.noText _ member
  rw [decode_encode] at noText
  cases noText

/-- The listing of a place is what is one step below it, under a text or under octets
that are none. -/
theorem mem_names_iff : (octets, entry) ∈ files.names place ↔
    (∃ name, Utf8.encode name.toList = octets ∧ files.entry? (place ++ [name]) = some entry) ∨
      ((place, octets), entry) ∈ files.unspelled := by
  rw [names, List.mem_append, List.mem_map, mem_unspelled_names_iff]
  refine or_congr_left ⟨?_, ?_⟩
  · rintro ⟨⟨name, held⟩, member, same⟩
    cases same
    exact ⟨name, rfl, mem_spelled_names_iff.mp member⟩
  · rintro ⟨name, rfl, held⟩
    exact ⟨(name, entry), mem_spelled_names_iff.mpr held, rfl⟩

/-- What is listed under a text is what a path can lead to. -/
theorem mem_names_encode_iff :
    (Utf8.encode name.toList, entry) ∈ files.names place ↔ files.entry? (place ++ [name]) = some entry := by
  rw [mem_names_iff]
  constructor
  · rintro (⟨other, same, held⟩ | member)
    · rwa [← String.toList_inj.mp (encode_inj.mp same)]
    · exact absurd member (not_unspelled_encode _)
  · exact fun held => .inl ⟨name, rfl, held⟩

/-- No name is listed twice. -/
theorem names_nodup (files : FileSystem) (place : Location) : ((files.names place).map (·.1)).Nodup := by
  rw [names, List.map_append, List.nodup_append]
  refine ⟨?_, unspelled_names_nodup files place, ?_⟩
  · rw [List.map_map, List.Nodup, List.pairwise_map]
    refine (List.pairwise_map.mp (spelled_names_nodup files place)).imp fun differ same => differ ?_
    exact String.toList_inj.mp (encode_inj.mp same)
  · rintro _ spelled _ unspelled rfl
    obtain ⟨_, inSpelled, rfl⟩ := List.mem_map.mp spelled
    obtain ⟨held, -, rfl⟩ := List.mem_map.mp inSpelled
    obtain ⟨⟨octets, entry⟩, inUnspelled, same⟩ := List.mem_map.mp unspelled
    cases same
    exact not_unspelled_encode _ (mem_unspelled_names_iff.mp inUnspelled)

theorem list_of_look (looked : files.look path = .ok (place, .directory)) :
    files.list path = .ok (files.names place) := by
  simp [FileSystem.list, looked, bind, Except.bind]

/-! ## Plain names -/

/-- The names of all entries are plain. -/
def PlainNames (files : FileSystem) : Prop :=
  ∀ place name entry, files.entry? (place ++ [name]) = some entry → PlainName name

theorem plain_of_looked (looked : Looked name) (piece : Piece name) : PlainName name :=
  ⟨piece.noSlash, piece.filled, looked.notHere, looked.notParent⟩

theorem ahead_of_passes (passes : Passes files start steps place ahead) : ∀ name ∈ ahead, name ∈ steps := by
  induction passes with
  | stay => exact fun _ member => member
  | here on ih => exact fun name member => List.mem_cons_of_mem _ (ih name member)
  | parent on ih => exact fun name member => List.mem_cons_of_mem _ (ih name member)
  | into looked held on ih => exact fun name member => List.mem_cons_of_mem _ (ih name member)

/-- A walk comes to a free place under the name of its last step. -/
theorem walk_free_plain (pieces : ∀ step ∈ steps, Piece step)
    (arrived : files.walk followLast start steps = .arrived location none) :
    ∃ place name, location = place ++ [name] ∧ PlainName name := by
  obtain ⟨place, ahead, passes, arrives⟩ := walk_arrived_iff.mp arrived
  cases arrives with
  | @free name looked free =>
    have step : name ∈ steps := ahead_of_passes passes name List.mem_cons_self
    exact ⟨place, name, rfl, plain_of_looked looked (pieces name step)⟩

theorem rest_of_link (met : files.walk followLast start steps = .link directory linked rest) :
    ∀ name ∈ rest, name ∈ steps := by
  obtain ⟨last, passes, -⟩ := walk_link_iff.mp met
  exact fun name member => ahead_of_passes passes name (List.mem_cons_of_mem _ member)

theorem leads_free_plain (pieces : ∀ step ∈ steps, Piece step)
    (leads : Leads files purpose links slash start steps target) (free : target.entry = none) :
    ∃ place name, target.location = place ++ [name] ∧ PlainName name := by
  induction leads with
  | arrived arrived =>
    cases free
    exact walk_free_plain pieces arrived
  | through met on ih =>
    refine ih (fun step member => ?_) free
    rcases List.mem_append.mp member with linked | behind
    · exact steps_are_pieces linked
    · exact pieces step (rest_of_link met step behind)

theorem locate_free_plain (located : files.locate purpose path = .ok ⟨location, none, slash⟩) :
    ∃ place name, location = place ++ [name] ∧ PlainName name :=
  leads_free_plain (fun _ member => steps_are_pieces member) (locate_iff.mp located).2 rfl

/-- A file system with nothing in it has no names at all. -/
theorem plain_names_empty : PlainNames {} := by
  intro place name entry held
  rw [entry_below] at held
  cases held

theorem PlainNames.put (plain : PlainNames files) (last : ∀ place name, location = place ++ [name] → PlainName name) :
    PlainNames (files.put location fresh) := by
  intro place name entry held
  rw [entry_put, if_neg (by simp)] at held
  split at held
  · rename_i same
    exact last place name same.symm
  · exact plain place name entry held

theorem PlainNames.put_free (plain : PlainNames files)
    (located : files.locate purpose path = .ok ⟨location, none, slash⟩) : PlainNames (files.put location fresh) := by
  refine plain.put fun place name split => ?_
  obtain ⟨between, last, ends, plainLast⟩ := locate_free_plain located
  rw [ends] at split
  obtain ⟨-, same⟩ := List.append_inj' split rfl
  cases same
  exact plainLast

theorem PlainNames.write {content : List UInt8} (plain : PlainNames files)
    (wrote : files.write path content = .ok after) : PlainNames after := by
  obtain ⟨location, rfl, free | ⟨old, held⟩⟩ := write_cases wrote
  · exact plain.put_free free
  · refine plain.put fun place name split => ?_
    obtain top | entry := (locate_iff.mp held).2.entry_held
    · cases top
    · exact plain place name _ (split ▸ entry)

theorem PlainNames.make_directory (plain : PlainNames files) (made : files.makeDirectory path = .ok after) :
    PlainNames after := by
  obtain ⟨location, slash, located, rfl⟩ := make_directory_cases made
  exact plain.put_free located

/-- Whatever a run does to the files, their names stay plain. -/
theorem respected_plain_names : Respected fun before after => PlainNames before → PlainNames after :=
  respected_of_kept (fun plain _ => make_directories_keep PlainNames.make_directory plain _) PlainNames.write

end CommandPlan.DirectoryNames
