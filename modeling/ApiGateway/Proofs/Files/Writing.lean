import ApiGateway.Files.Tree

/-!
# Writing to files

What a successful `write` or `append` does to a tree: the bytes of one file change as asked for,
those of every other file stay (`fileAt?_append`). A tree with one more file has the directories
and the links that it had (`Extends`), so that paths lead where they led (`Extends.locate`) and
what could be written once can be written again (`exists_append`).
-/

namespace ApiGateway.FileTree

/-- The bytes of the file of exactly these names. -/
def fileAt? (tree : FileTree) (place : List String) : Option ByteArray :=
  match tree.entryAt? place with
  | some (.file content) => some content
  | _ => none

/-- The path leads to a file and does not ask for a directory. -/
structure LeadsToFile (tree : FileTree) (path : String) (place : List String) : Prop where
  noSlash : path.endsWith "/" = false
  located : tree.locate path = .ok place
  present : tree.fileAt? place ≠ none

theorem fileAt?_eq_some_iff {tree : FileTree} {place : List String} {content : ByteArray} :
    tree.fileAt? place = some content ↔ tree.entryAt? place = some (.file content) := by
  rw [fileAt?]
  split
  · next found => rw [found, Option.some.injEq, Option.some.injEq, FileEntry.file.injEq]
  · next other => exact ⟨nofun, fun found => absurd found (other content)⟩

/-! ## Trees with the same directories and links -/

/-- A later tree in which every path leads where it led. -/
structure Extends (tree after : FileTree) : Prop where
  workingDirectory : after.workingDirectory = tree.workingDirectory
  directory : ∀ place,
    tree.entryAt? place = some .directory → after.entryAt? place = some .directory
  link : ∀ place target,
    after.entryAt? place = some (.link target) ↔ tree.entryAt? place = some (.link target)

namespace Extends

variable {tree after : FileTree} (further : tree.Extends after)
include further

/-- Names lead where they led, provided that they do so behind a link. -/
theorem follow {onward onward' : List String → List String → Except IoError (List String)}
    (same : ∀ place names found, onward place names = .ok found → onward' place names = .ok found)
    {place names found : List String} (leads : tree.follow onward place names = .ok found) :
    after.follow onward' place names = .ok found := by
  induction names generalizing place with
  | nil => exact leads
  | cons name rest inductionHypothesis =>
      simp only [FileTree.follow] at leads ⊢
      split at leads
      · cases leads
      · next here =>
        rw [further.directory place here]
        simp only
        split at leads
        · cases leads
        · next short =>
          rw [if_neg short]
          split at leads
          · next target link =>
            rw [(further.link _ target).mpr link]
            exact same _ _ _ leads
          · next noLink =>
            split
            · next target link => exact absurd ((further.link _ target).mp link) (noLink target)
            · exact inductionHypothesis leads
      · cases leads

theorem walk (links : Nat) {place names found : List String}
    (leads : tree.walk links place names = .ok found) :
    after.walk links place names = .ok found := by
  induction links generalizing place names found with
  | zero => exact further.follow (fun _ _ _ => id) leads
  | succ links inductionHypothesis =>
      exact further.follow (fun _ _ _ => inductionHypothesis) leads

theorem locate {path : String} {place : List String} (leads : tree.locate path = .ok place) :
    after.locate path = .ok place := by
  simp only [FileTree.locate, resolve, further.workingDirectory] at leads ⊢
  split at leads
  · cases leads
  · next noNul =>
    rw [if_neg noNul]
    split at leads
    · cases leads
    · next filled =>
      rw [if_neg filled]
      split at leads
      · cases leads
      · next short =>
        rw [if_neg short]
        exact further.walk maxLinks leads

end Extends

/-! ## One file put into a tree -/

theorem lookup_filter_ne (names others : List String) (entries : List (List String × FileEntry)) :
    (entries.filter fun (other, _) => other ≠ names).lookup others =
      if others = names then none else entries.lookup others := by
  induction entries with
  | nil => simp
  | cons entry entries inductionHypothesis =>
      obtain ⟨first, entry⟩ := entry
      by_cases same : first = names
      · rw [List.filter_cons_of_neg (by simp [same]), inductionHypothesis, List.lookup_cons, same]
        by_cases asked : others = names
        · simp [asked]
        · simp [asked, beq_eq_false_iff_ne.mpr asked]
      · rw [List.filter_cons_of_pos (by simp [same]), List.lookup_cons, List.lookup_cons,
          inductionHypothesis]
        by_cases asked : others = names
        · have other : (names == first) = false := beq_eq_false_iff_ne.mpr (Ne.symm same)
          simp [asked, other]
        · simp [asked]

theorem lookup_put (place : List String) (content : ByteArray) (tree : FileTree)
    (other : List String) :
    (put place content tree).entries.lookup other =
      if other = place then some (.file content) else tree.entries.lookup other := by
  rw [put, List.lookup_append, lookup_filter_ne, List.lookup_cons, List.lookup_nil]
  by_cases asked : other = place
  · simp [asked]
  · simp [asked, beq_eq_false_iff_ne.mpr asked]

/-- Elsewhere there is what there was, unless it is a directory above the file. -/
theorem entryAt?_put {place other : List String} (elsewhere : other ≠ place) (content : ByteArray)
    (tree : FileTree) :
    (put place content tree).entryAt? other = tree.entryAt? other ∨
      tree.entryAt? other = none ∧ (put place content tree).entryAt? other = some .directory := by
  have kept : (put place content tree).workingDirectory = tree.workingDirectory := rfl
  simp only [entryAt?, lookup_put, if_neg elsewhere, kept]
  split
  · exact .inl rfl
  · split
    · exact .inl rfl
    · have covered : (tree.entries.any fun (names, _) => other.isPrefixOf names) = true →
          ((put place content tree).entries.any fun (names, _) => other.isPrefixOf names)
            = true := by
        simp only [List.any_eq_true]
        rintro ⟨entry, member, before⟩
        by_cases same : entry.1 = place
        · exact ⟨(place, .file content), by simp [put], same ▸ before⟩
        · exact ⟨entry, by simp [put, member, same], before⟩
      by_cases before : (tree.entries.any fun (names, _) => other.isPrefixOf names) = true
      · rw [if_pos before, if_pos (covered before)]
        exact .inl rfl
      · rw [if_neg before]
        split
        · exact .inr ⟨rfl, rfl⟩
        · exact .inl rfl

/-- A path may be written to when it leads to a file, or to nothing in a directory. -/
structure Writable (tree : FileTree) (path : String) (place : List String)
    (present : ByteArray) : Prop where
  noSlash : path.endsWith "/" = false
  located : tree.locate path = .ok place
  present_eq : present = (tree.fileAt? place).getD .empty
  /-- No file is put where a directory or a link is. -/
  vacant : ∀ entry, tree.entryAt? place = some entry → ∃ content, entry = .file content

theorem writable_of_eq_ok {tree : FileTree} {path : String} {place : List String}
    {present : ByteArray} (answer : tree.writable path = .ok (place, present)) :
    tree.Writable path place present := by
  simp only [writable] at answer
  split at answer
  · split at answer <;> cases answer
  · next noSlash =>
    have noSlash := Bool.eq_false_iff.mpr noSlash
    split at answer
    · cases answer
    · next located =>
      split at answer
      · next content found =>
        cases answer
        refine ⟨noSlash, located, by rw [fileAt?_eq_some_iff.mpr found]; rfl, fun entry here => ?_⟩
        exact ⟨_, Option.some.inj (here.symm.trans found)⟩
      · next nothing =>
        cases answer
        refine ⟨noSlash, located, by rw [fileAt?, nothing]; rfl, fun entry here => ?_⟩
        cases nothing.symm.trans here
      · cases answer

section Put

variable {tree : FileTree} {path : String} {place : List String} {present : ByteArray}
  (writable : tree.Writable path place present)
include writable

/-- Directories lie elsewhere than the file that is written. -/
theorem not_isPrefixOf_workingDirectory : place.isPrefixOf tree.workingDirectory = false := by
  rw [← Bool.not_eq_true]
  intro above
  obtain ⟨content, isFile⟩ := writable.vacant .directory (by rw [entryAt?, if_pos above])
  cases isFile

theorem entryAt?_put_self (content : ByteArray) :
    (put place content tree).entryAt? place = some (.file content) := by
  have outside := not_isPrefixOf_workingDirectory writable
  simp only [entryAt?, lookup_put, if_true]
  rw [if_neg (by rw [put, outside]; exact Bool.false_ne_true)]

theorem extends_put (content : ByteArray) : tree.Extends (put place content tree) where
  workingDirectory := rfl
  directory other directory := by
    have elsewhere : other ≠ place := by
      rintro rfl
      obtain ⟨content, isFile⟩ := writable.vacant .directory directory
      cases isFile
    rcases entryAt?_put elsewhere content tree with same | ⟨nothing, -⟩
    · rw [same, directory]
    · rw [directory] at nothing
      cases nothing
  link other target := by
    by_cases here : other = place
    · subst here
      rw [entryAt?_put_self writable]
      refine ⟨nofun, fun link => ?_⟩
      obtain ⟨content, isFile⟩ := writable.vacant (.link target) link
      cases isFile
    · rcases entryAt?_put here content tree with same | ⟨nothing, above⟩
      · rw [same]
      · rw [nothing, above]
        exact ⟨nofun, nofun⟩

theorem fileAt?_put (content : ByteArray) (other : List String) :
    (put place content tree).fileAt? other =
      if other = place then some content else tree.fileAt? other := by
  by_cases here : other = place
  · rw [if_pos here, here, fileAt?_eq_some_iff, entryAt?_put_self writable]
  · rw [if_neg here]
    rcases entryAt?_put here content tree with same | ⟨nothing, above⟩
    · rw [fileAt?, fileAt?, same]
    · rw [fileAt?, fileAt?, nothing, above]

theorem leadsToFile_put (content : ByteArray) :
    (put place content tree).LeadsToFile path place where
  noSlash := writable.noSlash
  located := (extends_put writable content).locate writable.located
  present := by
    rw [fileAt?_put writable, if_pos rfl]
    exact Option.some_ne_none _

theorem LeadsToFile.put {other : String} {target : List String}
    (leads : tree.LeadsToFile other target) (content : ByteArray) :
    (put place content tree).LeadsToFile other target where
  noSlash := leads.noSlash
  located := (extends_put writable content).locate leads.located
  present := by
    rw [fileAt?_put writable]
    split
    · exact Option.some_ne_none _
    · exact leads.present

end Put

/-! ## Writing and appending -/

theorem lookup_write {tree after : FileTree} {path : String} {content : ByteArray}
    (done : tree.write path content = .ok after) : after.lookup path = .ok (.file content) := by
  cases answer : tree.writable path with
  | error error => simp [write, answer, Except.map] at done
  | ok found =>
      simp only [write, answer, Except.map] at done
      cases done
      have writable := writable_of_eq_ok answer
      rw [lookup, (leadsToFile_put writable content).located]
      simp only [entryAt?_put_self writable]

/-- What was written to a file is read there. -/
theorem readText_write {tree after : FileTree} {path : String} {text : String}
    (done : tree.write path text.toUTF8 = .ok after) : after.readText path = .ok text := by
  rw [readText, readBytes, lookup_write done]
  have decoded : String.fromUTF8? text.toUTF8 = some text := dif_pos text.isValidUTF8
  simp only [decoded]

/-- Where a path can be appended to, one file is put. -/
theorem append_eq_put {tree after : FileTree} {path : String} {content : ByteArray}
    (done : tree.append path content = .ok after) :
    ∃ place present, tree.Writable path place present ∧
      after = put place (present ++ content) tree := by
  cases answer : tree.writable path with
  | error error => simp [append, answer, Except.map] at done
  | ok found =>
      simp only [append, answer, Except.map] at done
      cases done
      exact ⟨found.1, found.2, writable_of_eq_ok answer, rfl⟩

/-- What appending to a path comes to: it leads to a file, and bytes were added there and nowhere
else. -/
structure Appends (tree after : FileTree) (path : String) (content : ByteArray)
    (place : List String) : Prop where
  leads : after.LeadsToFile path place
  added : ∀ other, after.fileAt? other =
    if other = place then some ((tree.fileAt? other).getD .empty ++ content)
    else tree.fileAt? other
  kept : ∀ path' place', tree.LeadsToFile path' place' → after.LeadsToFile path' place'

theorem appends_of_append {tree after : FileTree} {path : String} {content : ByteArray}
    (done : tree.append path content = .ok after) :
    ∃ place, Appends tree after path content place := by
  obtain ⟨place, present, writable, rfl⟩ := append_eq_put done
  refine ⟨place, leadsToFile_put writable _, fun other => ?_,
    fun _ _ leads => leads.put writable _⟩
  rw [fileAt?_put writable, writable.present_eq]
  by_cases here : other = place
  · rw [if_pos here, if_pos here, here]
  · rw [if_neg here, if_neg here]

/-- What leads to a file can be appended to, and the bytes go to that file. -/
theorem exists_append {tree : FileTree} {path : String} {place : List String}
    (leads : tree.LeadsToFile path place) (content : ByteArray) :
    ∃ after, tree.append path content = .ok after ∧ Appends tree after path content place := by
  obtain ⟨present, file⟩ := Option.ne_none_iff_exists'.mp leads.present
  obtain ⟨after, done⟩ : ∃ after, tree.append path content = .ok after := by
    simp [FileTree.append, FileTree.writable, leads.noSlash, leads.located,
      fileAt?_eq_some_iff.mp file, Except.map]
  obtain ⟨place', appends⟩ := appends_of_append done
  -- The path still leads to where it led before the bytes were added.
  have same := (appends.kept path place leads).located.symm.trans appends.leads.located
  cases same
  exact ⟨after, done, appends⟩

end ApiGateway.FileTree
