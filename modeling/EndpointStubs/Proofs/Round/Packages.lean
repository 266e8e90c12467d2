import EndpointStubs.Proofs.Emit.Confined
import EndpointStubs.Proofs.Round.Places

/-!
# Files of different packages

A controller has a simple name, so a file of a round lies right in the directory of its package.
With an extension its name has a dot, and the name of a directory that a package stands for has
none. So no file of one package is at or above the place of a file of another one, whether the one
package lies in the other or not.

    x ∈ p.files (scan ds) → x.2.place cwd = root.place cwd ++ folders package ++ [f], '.' in f
-/

namespace EndpointStubs

namespace QualifiedName

/-! ## Packages as directories -/

theorem folders_injective {a b : String} (h : folders a = folders b) : a = b := by
  unfold folders at h
  split at h <;> split at h
  · simp [*]
  · exact absurd h.symm (segments_ne_nil b)
  · exact absurd h (segments_ne_nil a)
  · exact segments_injective h

/-- Files below directories with no dots in their names, at or above one another, share these. -/
theorem eq_of_files_isPrefix {ps qs : List String} {f g : String} (hf : '.' ∈ f.toList)
    (hq : ∀ s ∈ qs, '.' ∉ s.toList) (h : ps ++ [f] <+: qs ++ [g]) : ps = qs := by
  rcases List.prefix_concat_iff.1 h with h | h
  · exact List.append_inj_left' h rfl
  · exact absurd hf (hq f (h.subset (by simp)))

end QualifiedName

open QualifiedName (folders)

/-! ## Simple names of scanned rounds -/

/-- The name of an artifact is its package and a simple name. -/
theorem exists_nameIn_scan_eq (ds : List Declaration) (kind : ArtifactKind) :
    ∃ s, kind.nameIn (scan ds) = QualifiedName.qualify (scan ds).packageName s ∧
      '.' ∉ s.toList := by
  cases kind with
  | stubBase => exact ⟨_, rfl, EndpointModel.dot_not_mem_stubBaseName⟩
  | stub =>
    exact ⟨_, rfl, (EndpointModel.reachable_scan ds).simplyNamed.dot_not_mem_stubClassName⟩

namespace Layout

theorem dot_mem_fileName {l : Layout} (h : l.extension ≠ "") (simple : String) :
    '.' ∈ (l.fileName simple).toList := by
  simp [fileName, h]

/-- Without slash in the extension the file of a simple name lies in the directory of its package. -/
theorem names_of_simple {l : Layout} (h : '/' ∉ l.extension.toList) (package : String) {s : String}
    (hs : '.' ∉ s.toList) :
    l.names (QualifiedName.qualify package s) = folders package ++ [l.fileName s] := by
  rw [names_qualify, names_of_not_mem h, QualifiedName.segments_of_not_mem hs]
  rfl

end Layout

namespace Processor

variable {p : Processor} {g c : Path} {extension : String} {ds es : List Declaration}
  (hp : p.emitter = .ofRoots g c extension) (hne : extension ≠ "")
  (hslash : '/' ∉ extension.toList)

include hp hne hslash

/-- A file of a round lies right in the directory of its package, below a root. -/
theorem place_of_mem_files (cwd : Location) {x : ArtifactKind × Path}
    (h : x ∈ p.files (scan ds)) : ∃ root ∈ [g, c], ∃ f,
      x.2.place cwd = root.place cwd ++ (folders (scan ds).packageName ++ [f]) ∧
      '.' ∈ f.toList ∧ ∀ s ∈ folders (scan ds).packageName, '.' ∉ s.toList := by
  obtain ⟨a, ha, hx⟩ := exists_targets_of_mem_files h
  obtain ⟨s, hname, hs⟩ := exists_nameIn_scan_eq ds x.1
  rw [hp, hname] at ha
  have hsegments := (Emitter.exists_targets_iff.1 ⟨a, ha⟩).1
  rw [QualifiedName.segments_qualify, List.all_append, Bool.and_eq_true] at hsegments
  have hfolders : ∀ s ∈ folders (scan ds).packageName, '.' ∉ s.toList := fun s hs =>
    QualifiedName.dot_not_mem_of_isSegment (List.all_eq_true.1 hsegments.1 s hs)
  have hfile := (Layout.mk g extension).dot_mem_fileName hne s
  obtain ⟨hc, hm⟩ := Emitter.place_of_targets cwd ha
  rw [Layout.names_of_simple hslash _ hs] at hc hm
  rcases hx with hx | hx
  · exact ⟨g, by simp, _, hx ▸ hc, hfile, hfolders⟩
  · exact ⟨c, by simp, _, hx ▸ hm, hfile, hfolders⟩

/-- No file of a round is at or above the place of a file of a round for another package. -/
theorem not_isPrefix_of_packages {cwd : Location} (hgc : ¬g.place cwd <+: c.place cwd)
    (hcg : ¬c.place cwd <+: g.place cwd)
    (hpackages : (scan ds).packageName ≠ (scan es).packageName) {x y : ArtifactKind × Path}
    (hx : x ∈ p.files (scan ds)) (hy : y ∈ p.files (scan es)) :
    ¬x.2.place cwd <+: y.2.place cwd := by
  obtain ⟨root, hroot, f, hxp, hf, -⟩ := place_of_mem_files hp hne hslash cwd hx
  obtain ⟨root', hroot', f', hyp, -, hfolders⟩ := place_of_mem_files hp hne hslash cwd hy
  rw [hxp, hyp]
  by_cases hsame : root = root'
  · rw [hsame, List.prefix_append_right_inj]
    exact fun h => hpackages
      (QualifiedName.folders_injective (QualifiedName.eq_of_files_isPrefix hf hfolders h))
  · exact not_isPrefix_of_roots hgc hcg hroot hroot' hsame _ _

end Processor

end EndpointStubs
