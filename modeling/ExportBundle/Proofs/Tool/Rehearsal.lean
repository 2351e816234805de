import ExportBundle.Proofs.Build.Frame
import ExportBundle.Tool.Rehearsal

/-! The tools of a rehearsal are tools as a build expects them. Main statement: whatever the script
says, they change nothing outside the temporary directory that they work for. -/

namespace ExportBundle

theorem Path.ofString_text {segments : List String} (hne : segments ≠ [])
    (h : ∀ s ∈ segments, '/' ∉ s.toList ∧ s ≠ "" ∧ s ≠ ".") :
    Path.ofString (Path.text ⟨0, segments⟩) = ⟨0, segments⟩ := by
  have htext : (Path.text ⟨0, segments⟩).toList =
      ['/'].intercalate (segments.map String.toList) := by
    simp [Path.text, hne, String.toList_intercalate]
  have hpieces : Text.pieces '/' (Path.text ⟨0, segments⟩) = segments := by
    rw [Text.pieces, htext, Text.split_intercalate (by simpa using hne)]
    · simp
    · intro l hl
      obtain ⟨s, hs, rfl⟩ := List.mem_map.1 hl
      exact (h s hs).1
  have hleading : (Path.text ⟨0, segments⟩).toList.takeWhile (· == '/') = [] := by
    obtain ⟨s, r, rfl⟩ := List.exists_cons_of_ne_nil hne
    obtain ⟨hslash, hempty, _⟩ := h s (by simp)
    obtain ⟨c, cs, hcs⟩ := List.exists_cons_of_ne_nil (fun he => hempty (String.toList_eq_nil_iff.1 he))
    rw [hcs, List.mem_cons, not_or] at hslash
    have hstart : ∃ rest, (Path.text ⟨0, s :: r⟩).toList = c :: rest := by
      rw [htext, List.map_cons, hcs]
      cases r <;> simp
    obtain ⟨rest, hrest⟩ := hstart
    rw [hrest]
    exact List.takeWhile_cons_of_neg (by simpa using Ne.symm hslash.1)
  have hkept : segments.filter (fun p => p != "" && p != ".") = segments := by
    rw [List.filter_eq_self]
    intro s hs
    obtain ⟨_, hempty, hdot⟩ := h s hs
    simp [hempty, hdot]
  simp [Path.ofString, hleading, hpieces, hkept]

namespace Build

open Rehearsal

variable {name : String}

theorem lookup_wrote {d : Disk} {written : Except Disk.Fault Disk} {l : Location}
    (h : ∀ e, written = .ok e → e.lookup l = d.lookup l) :
    (wrote d written).2.lookup l = d.lookup l := by
  cases written with
  | error f => rfl
  | ok e => exact h e rfl

theorem lookup_write_inside (hname : IsTemporary name) {below : List String} (hb : ".." ∉ below)
    {here l : Location} (hl : ¬ Inside name here l) {d e : Disk} {bytes : List UInt8}
    (h : d.write here ⟨0, name :: below⟩ bytes = .ok e) : e.lookup l = d.lookup l := by
  obtain ⟨_, _, rfl⟩ := Disk.write_eq_ok_iff.1 h
  apply Disk.lookup_put_ne
  rintro rfl
  exact hl (inside_down here hname hb)

theorem ofString_text_temporary (hname : IsTemporary name) {s : String}
    (hs : '/' ∉ s.toList ∧ s ≠ "" ∧ s ≠ ".") :
    Path.ofString (Path.text ⟨0, [name, s]⟩) = ⟨0, [name, s]⟩ := by
  refine Path.ofString_text (by simp) fun part hpart => ?_
  rcases List.mem_pair.1 hpart with rfl | rfl
  · exact hname.segment
  · exact hs

variable {here l : Location} {s : State} {d : Disk}

theorem install_keeps (hname : IsTemporary name) (hl : ¬ Inside name here l) {below : List String}
    (hb : ".." ∉ below) {c : Command} (hc : c.directory = some ⟨0, name :: below⟩) :
    (install c here s d).2.2.lookup l = d.lookup l := by
  unfold install
  dsimp only
  split
  · rfl
  · rw [hc, Option.getD_some]
    have hlock : Path.child ⟨0, name :: below⟩ "package-lock.json" =
        ⟨0, name :: (below ++ ["package-lock.json"])⟩ := child_lock _
    rw [hlock]
    refine lookup_wrote fun e he => lookup_write_inside hname ?_ hl he
    simpa using hb

theorem bundle_keeps (hname : IsTemporary name) (hl : ¬ Inside name here l) {c : Command}
    (hc : c.words.getLastD "" = Path.text ⟨0, [name, "bundle.js"]⟩) :
    (bundle c here s d).2.2.lookup l = d.lookup l := by
  unfold bundle
  dsimp only
  rw [hc, ofString_text_temporary hname (by decide)]
  refine lookup_wrote fun e he => ?_
  cases hinside : Rehearsal.contents d here (((c.words.drop 3).takeWhile fun w =>
      w != "-x" && w != "-o").map Path.ofString) with
  | error f =>
    rw [hinside] at he
    cases he
  | ok inside =>
    rw [hinside] at he
    exact lookup_write_inside hname (by decide) hl he

theorem minify_keeps (hname : IsTemporary name) (hl : ¬ Inside name here l) {c : Command}
    (hc : c.words.getD 5 "" = Path.text ⟨0, [name, "output.js"]⟩) :
    (minify c here s d).2.2.lookup l = d.lookup l := by
  unfold minify
  dsimp only
  rw [hc, ofString_text_temporary hname (by decide)]
  refine lookup_wrote fun e he => ?_
  cases hinput : d.read here (Path.ofString (c.words.getD 3 "")) with
  | error f =>
    rw [hinput] at he
    cases he
  | ok input =>
    rw [hinput] at he
    exact lookup_write_inside hname (by decide) hl he

theorem tools_keeps {c : Command}
    (hinstall : toolName c.words = "install" → (install c here s d).2.2.lookup l = d.lookup l)
    (hbundle : toolName c.words = "browserify" → (bundle c here s d).2.2.lookup l = d.lookup l)
    (hminify : toolName c.words = "babel-minify" →
      (minify c here s d).2.2.lookup l = d.lookup l) :
    (tools c here s d).2.2.lookup l = d.lookup l := by
  unfold tools
  dsimp only
  split
  · rfl
  · rfl
  · rfl
  · split
    · exact hinstall ‹_›
    · rfl
    · exact hbundle ‹_›
    · exact hminify ‹_›
    · rfl

theorem getLastD_words (runner : String) (entries : List Path) (externals : List String)
    (out : Path) : (Browserify.words runner entries externals out).getLastD "" = out.text := by
  have hwords : Browserify.words runner entries externals out =
      [runner, "--yes", "browserify"] ++ entries.map Path.text ++
        externals.flatMap (fun name => ["-x", name]) ++ ["-o"] ++ [out.text] := by
    simp [Browserify.words]
  rw [hwords, List.getLastD_concat]

/-- The tools of a rehearsal keep to the temporary directory that they are given. -/
theorem keepsInside_rehearsal : KeepsInside (Kit.standard tools) := by
  intro task hdown name hname here s d l hl
  have hlist (directory : Path) :
      (tools (Npm.standard.listCommand directory) here s d).2.2.lookup l = d.lookup l := by
    have htool : toolName (Npm.standard.listCommand directory).words = "ls" := rfl
    exact tools_keeps (fun h => absurd (htool.symm.trans h) (by decide))
      (fun h => absurd (htool.symm.trans h) (by decide))
      fun h => absurd (htool.symm.trans h) (by decide)
  cases task with
  | install packages below =>
    have htool : toolName (Npm.standard.installCommand packages ⟨0, name :: below⟩).words =
        "install" := rfl
    exact tools_keeps (fun _ => install_keeps hname hl hdown rfl)
      (fun h => absurd (htool.symm.trans h) (by decide))
      fun h => absurd (htool.symm.trans h) (by decide)
  | list => exact hlist _
  | listHost host => exact hlist host
  | bundle externals =>
    have htool : toolName ((Task.bundle externals).command (Kit.standard tools) name).words =
        "browserify" := rfl
    exact tools_keeps (fun h => absurd (htool.symm.trans h) (by decide))
      (fun _ => bundle_keeps hname hl (getLastD_words _ _ externals _))
      fun h => absurd (htool.symm.trans h) (by decide)
  | minify =>
    have htool : toolName (Task.minify.command (Kit.standard tools) name).words =
        "babel-minify" := rfl
    exact tools_keeps (fun h => absurd (htool.symm.trans h) (by decide))
      (fun h => absurd (htool.symm.trans h) (by decide)) fun _ => minify_keeps hname hl rfl

end Build

end ExportBundle
