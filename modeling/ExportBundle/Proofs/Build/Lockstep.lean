import ExportBundle.Proofs.Build.Twin
import ExportBundle.Proofs.Tool.Failures

/-! The actions of two builds in step. From worlds with twin directories, whatever succeeds for the
first build succeeds for the second one with the same result, and the directories stay twins. -/

namespace ExportBundle.Build

open Act

variable {depths : Depths} {τ σ : Type} {α β : Type} {z : Pairing} {w₀ w₀' : World τ σ}

theorem follows_inquire {rel : α → β → Prop}
    {question : Disk → Location → Except Disk.Fault α}
    {question' : Disk → Location → Except Disk.Fault β}
    (h : ∀ w w', Twins z w₀ w₀' w w' →
      Answers rel (question w.disk w.here) (question' w'.disk w'.here)) :
    Follows (Twins z w₀ w₀') (inquire question) (inquire question')
      fun a b v v' => rel a b ∧ Twins z w₀ w₀' v v' := by
  intro w w' hw a v hv
  have hanswers := h w w' hw
  rw [perform_inquire] at hv
  rw [perform_inquire]
  generalize question w.disk w.here = x at hanswers hv
  generalize question' w'.disk w'.here = x' at hanswers
  cases hanswers with
  | error hcause => cases hv
  | ok hrel =>
    cases hv
    exact ⟨_, _, rfl, hrel, hw⟩

theorem repeats_of_agrees {act act' : Act τ σ α} (hact : Moves World.Agrees act)
    (hact' : Moves World.Agrees act') (h : ∀ w w', (act'.perform w').1 = (act.perform w).1) :
    Repeats (Twins z w₀ w₀') act act' := by
  intro w w' hw a v hv
  have hleft := hact w
  have hright := hact' w'
  have hresult := h w w'
  rw [hv] at hleft hresult
  refine ⟨a, (act'.perform w').2, Prod.ext hresult rfl, rfl, hw.agrees hleft hright⟩

theorem repeats_announce (kit : Kit τ) (step : Step) :
    Repeats (Twins z w₀ w₀') (kit.announce step) (kit.announce step) := by
  refine repeats_of_agrees (moves_announce kit step) (moves_announce kit step) fun w w' => ?_
  rw [Kit.announce, perform_bind, perform_bind, perform_report, perform_report]
  dsimp only
  rw [perform_lift, perform_lift]

theorem repeats_lift {ε : Type} (f : ε → Failure) (x : Except ε α) :
    Repeats (Twins z w₀ w₀') (lift f x) (lift f x) := by
  refine repeats_of_agrees (moves_lift f x) (moves_lift f x) fun w w' => ?_
  rw [perform_lift, perform_lift]

theorem repeats_assemble (bundle : String) (nodes : List Export.Node) :
    Repeats (Twins z w₀ w₀') (assemble bundle nodes) (assemble bundle nodes) :=
  repeats_of_agrees (moves_assemble bundle nodes) (moves_assemble bundle nodes) fun _ _ => rfl

theorem repeats_pure (a : α) : Repeats (Twins z w₀ w₀') (pure a) (pure a) :=
  follows_pure fun _ _ hw => ⟨rfl, hw⟩

section Paths

variable (hs : Start z w₀ w₀') (below : List String)

include hs

theorem follows_change {update update' : Disk → Location → Except Disk.Fault Disk}
    (h : ∀ w w', Twins z w₀ w₀' w w' →
      Answers (Kept z.LikeAt w.disk w'.disk z.here z.name z.name') (update w.disk w.here)
        (update' w'.disk w'.here)) :
    Repeats (Twins z w₀ w₀') (change update) (change update') := by
  intro w w' hw a v hv
  have hanswers := h w w' hw
  rw [perform_change] at hv
  rw [perform_change]
  generalize update w.disk w.here = x at hanswers hv
  generalize update' w'.disk w'.here = x' at hanswers
  cases hanswers with
  | error hcause => cases hv
  | ok hkept =>
    cases hv
    exact ⟨_, _, rfl, rfl, hw.change hs hkept⟩

theorem repeats_isFile (hb : isSmall below = true) :
    Repeats (Twins z w₀ w₀') (isFile ⟨0, z.name :: below⟩) (isFile ⟨0, z.name' :: below⟩) := by
  refine follows_inquire fun w w' hw => ?_
  rw [hw.here hs, hw.here' hs]
  exact isFile_twin hw.rooted (hs.roomy.modest hb) (hs.roomy'.modest hb)

theorem repeats_isDirectory (hb : isSmall below = true) :
    Repeats (Twins z w₀ w₀') (isDirectory ⟨0, z.name :: below⟩)
      (isDirectory ⟨0, z.name' :: below⟩) := by
  refine follows_inquire fun w w' hw => ?_
  rw [hw.here hs, hw.here' hs]
  exact isDirectory_twin hw.rooted (hs.roomy.modest hb) (hs.roomy'.modest hb)

theorem follows_readBytes (hb : isSmall below = true) :
    Follows (Twins z w₀ w₀') (readBytes ⟨0, z.name :: below⟩) (readBytes ⟨0, z.name' :: below⟩)
      fun a b v v' => z.LikeAt below a b ∧ Twins z w₀ w₀' v v' := by
  refine follows_inquire fun w w' hw => ?_
  rw [hw.here hs, hw.here' hs]
  exact read_twin hw.rooted (hs.roomy.modest hb) (hs.roomy'.modest hb)

theorem repeats_readBytes (hb : isSmall below = true) (hne : below ≠ [manifestName]) :
    Repeats (Twins z w₀ w₀') (readBytes ⟨0, z.name :: below⟩)
      (readBytes ⟨0, z.name' :: below⟩) := by
  refine (follows_readBytes hs _ hb).mono (fun _ _ h => h) fun a b v v' h => ⟨?_, h.2⟩
  have hlike := h.1
  rw [Pairing.LikeAt, if_neg hne] at hlike
  exact hlike

theorem repeats_readText (hb : isSmall below = true) (hne : below ≠ [manifestName]) :
    Repeats (Twins z w₀ w₀') (readText ⟨0, z.name :: below⟩)
      (readText ⟨0, z.name' :: below⟩) := by
  refine (repeats_readBytes hs _ hb hne).bind fun bytes => ?_
  split
  · exact repeats_pure _
  · exact follows_fail _ _

theorem repeats_readJson (hb : isSmall below = true) (hne : below ≠ [manifestName]) :
    Repeats (Twins z w₀ w₀') (readJson ⟨0, z.name :: below⟩)
      (readJson ⟨0, z.name' :: below⟩) := by
  refine (repeats_readText hs _ hb hne).bind fun text => ?_
  split
  · exact repeats_pure _
  · exact follows_fail _ _

theorem repeats_writeBytes (hb : isSmall below = true) {bytes bytes' : List UInt8}
    (h : z.LikeAt below bytes bytes') :
    Repeats (Twins z w₀ w₀') (writeBytes ⟨0, z.name :: below⟩ bytes)
      (writeBytes ⟨0, z.name' :: below⟩ bytes') := by
  refine follows_change hs fun w w' hw => ?_
  rw [hw.here hs, hw.here' hs]
  exact write_twin hw.rooted (hs.roomy.modest hb) (hs.roomy'.modest hb) h

theorem repeats_writeText (hb : isSmall below = true) (hne : below ≠ [manifestName])
    (text : String) :
    Repeats (Twins z w₀ w₀') (writeText ⟨0, z.name :: below⟩ text)
      (writeText ⟨0, z.name' :: below⟩ text) := by
  refine repeats_writeBytes hs below hb ?_
  rw [Pairing.LikeAt, if_neg hne]

omit hs in
theorem isSmall_dropLast {s : String} {r : List String} (h : isSmall (s :: r) = true) :
    isSmall (s :: r).dropLast = true := by
  obtain ⟨last, hlast⟩ : ∃ last, s :: r = (s :: r).dropLast ++ [last] :=
    ⟨_, (List.dropLast_append_getLast (by simp)).symm⟩
  generalize (s :: r).dropLast = init at hlast ⊢
  rw [hlast] at h
  simp only [isSmall, Bool.and_eq_true, List.all_append, Disk.span_append,
    decide_eq_true_eq] at h ⊢
  exact ⟨h.1.1, by omega⟩

theorem repeats_acceptDirectory (hb : isSmall below = true) :
    Repeats (Twins z w₀ w₀') (acceptDirectory ⟨0, z.name :: below⟩)
      (acceptDirectory ⟨0, z.name' :: below⟩) := by
  have hchange {name : String} : ∀ w : World τ σ,
      (acceptDirectory ⟨0, name :: below⟩ : Act τ σ Unit).perform w =
        (change fun d here => d.acceptDirectory here ⟨0, name :: below⟩).perform w := fun w => by
    rw [perform_acceptDirectory, perform_change]
  have hstep : Repeats (Twins z w₀ w₀')
      (change fun d here => d.acceptDirectory here ⟨0, z.name :: below⟩)
      (change fun d here => d.acceptDirectory here ⟨0, z.name' :: below⟩) := by
    refine follows_change hs fun w w' hw => ?_
    rw [hw.here hs, hw.here' hs]
    exact acceptDirectory_twin hw.rooted (hs.roomy.modest hb) (hs.roomy'.modest hb)
  intro w w' hw a v hv
  rw [hchange] at hv
  rw [hchange]
  exact hstep hw hv

omit hs in
theorem reaches_temporary {name : String} (hname : IsTemporary name) {d : Disk} {here : Location}
    (hstanding : d.lookup here = some .directory) : d.Reaches here ⟨0, [name]⟩ := by
  refine ⟨fun m hm => ?_, fun _ => ?_⟩
  · rw [List.mem_singleton.1 hm]
    exact hstanding
  · rw [hname.place, List.dropLast_concat, hstanding]

theorem repeats_makeDirectoriesUpTo (above : Nat) (hb : isSmall below = true) :
    Repeats (Twins z w₀ w₀') (makeDirectoriesUpTo above ⟨0, z.name :: below⟩)
      (makeDirectoriesUpTo above ⟨0, z.name' :: below⟩) := by
  induction above generalizing below with
  | zero => exact repeats_acceptDirectory hs _ hb
  | succ above ih =>
    intro w w' hw a v hv
    rw [perform_makeDirectoriesUpTo_succ] at hv
    rw [perform_makeDirectoriesUpTo_succ]
    have hanswers : Answers (Kept z.LikeAt w.disk w'.disk z.here z.name z.name')
        (w.disk.acceptDirectory w.here ⟨0, z.name :: below⟩)
        (w'.disk.acceptDirectory w'.here ⟨0, z.name' :: below⟩) := by
      rw [hw.here hs, hw.here' hs]
      exact acceptDirectory_twin hw.rooted (hs.roomy.modest hb) (hs.roomy'.modest hb)
    generalize haccept : w.disk.acceptDirectory w.here ⟨0, z.name :: below⟩ = x at hanswers hv
    generalize w'.disk.acceptDirectory w'.here ⟨0, z.name' :: below⟩ = x' at hanswers ⊢
    cases hanswers with
    | ok hkept =>
      cases hv
      exact ⟨_, _, rfl, rfl, hw.change hs hkept⟩
    | error hcause =>
      dsimp only at hv ⊢
      split at hv
      · rename_i hmissing
        cases below with
        | nil =>
          have hreaches : w.disk.Reaches w.here ⟨0, [z.name]⟩ :=
            reaches_temporary hs.roomy.temporary (by rw [hw.here hs, hw.rooted.left])
          exact absurd hmissing.1 (hreaches.acceptDirectory_cause_ne haccept)
        | cons s r =>
          have hparent {name : String} :
              Path.parent ⟨0, name :: s :: r⟩ = ⟨0, name :: (s :: r).dropLast⟩ := rfl
          have hne {name : String} : Path.parent ⟨0, name :: s :: r⟩ ≠ ⟨0, name :: s :: r⟩ :=
            fun h => List.cons_ne_nil _ _ (Path.parent_eq_self_iff.1 h)
          rw [if_pos ⟨hcause ▸ hmissing.1, hne⟩]
          rw [hparent] at hv ⊢
          exact ((ih _ (isSmall_dropLast hb)).bind fun _ => repeats_acceptDirectory hs _ hb) hw hv
      · cases hv

theorem repeats_makeDirectories (hb : isSmall below = true) :
    Repeats (Twins z w₀ w₀') (makeDirectories ⟨0, z.name :: below⟩)
      (makeDirectories ⟨0, z.name' :: below⟩) :=
  repeats_makeDirectoriesUpTo hs _ _ hb

end Paths

/-! Tasks -/

section Tasks

variable {kit : Kit τ} (hsteady : Steady kit z.config z.project z.unseen) (hs : Start z w₀ w₀')

include hsteady hs

theorem repeats_task (task : Task) (hdown : task.Down) :
    Repeats (Twins z w₀ w₀') (run kit.tools (task.command kit z.name))
      (run kit.tools (task.command kit z.name')) := by
  intro w w' hw output v hv
  obtain ⟨hreply, rfl⟩ := run_eq_ok_iff.1 hv
  rw [World.reply, hw.here hs] at hreply
  have halike : Alike ⟨z.config, z.project, z.unseen, z.here, z.name, z.name'⟩ w.disk w'.disk :=
    hw.alike hs
  obtain ⟨hreply', hstate, hinside⟩ := hsteady.repeats task hdown z.name z.name' hs.roomy.temporary
    hs.roomy'.temporary z.here w.tools w.disk w'.disk halike output hreply
  have hleft : ∀ l, ¬ Inside z.name z.here l →
      (w.afterRun kit.tools (task.command kit z.name)).disk.lookup l = w.disk.lookup l := by
    intro l hl
    rw [World.afterRun_disk, hw.here hs]
    exact hsteady.keeps task hdown z.name hs.roomy.temporary z.here w.tools w.disk l hl
  have hright : ∀ l, ¬ Inside z.name' z.here l →
      (w'.afterRun kit.tools (task.command kit z.name')).disk.lookup l = w'.disk.lookup l := by
    intro l hl
    rw [World.afterRun_disk, hw.here' hs]
    exact hsteady.keeps task hdown z.name' hs.roomy'.temporary z.here w'.tools w'.disk l hl
  rw [← hw.tools] at hreply'
  refine ⟨output, w'.afterRun kit.tools (task.command kit z.name'), run_eq_ok_iff.2 ⟨?_, rfl⟩,
    rfl, ?_⟩
  · rw [World.reply, hw.here' hs, hreply']
  · refine ⟨⟨?_, ?_, fun below => ?_⟩, ?_, ?_, ?_⟩
    · rw [hleft _ (not_inside_here _ _), hw.rooted.left]
    · rw [hright _ (not_inside_here _ _), hw.rooted.right]
    · rw [World.afterRun_disk, World.afterRun_disk, hw.here hs, hw.here' hs, hw.tools]
      exact hinside below
    · rw [World.afterRun_tools, World.afterRun_tools, hw.here hs, hw.here' hs, hw.tools]
      exact hstate
    · exact hw.left.trans ⟨rfl, rfl, fun l hl => hleft l (by rw [← hw.here hs]; exact hl)⟩
    · exact hw.right.trans ⟨rfl, rfl, fun l hl => hright l (by rw [← hw.here' hs]; exact hl)⟩

theorem repeats_taskChecked (task : Task) (hdown : task.Down) :
    Repeats (Twins z w₀ w₀') (runChecked kit.tools (task.command kit z.name))
      (runChecked kit.tools (task.command kit z.name')) := by
  refine (repeats_task hsteady hs task hdown).bind fun output => ?_
  by_cases hcode : output.code ≠ 0
  · rw [if_pos hcode, if_pos hcode]
    exact follows_fail_bind _ _ _
  · rw [if_neg hcode, if_neg hcode]
    exact repeats_pure _

theorem repeats_install (packages : List String) {below : List String} (hb : ".." ∉ below) :
    Repeats (Twins z w₀ w₀') (kit.npm.install kit.tools packages ⟨0, z.name :: below⟩)
      (kit.npm.install kit.tools packages ⟨0, z.name' :: below⟩) := by
  unfold Npm.install
  by_cases hempty : packages.isEmpty = true
  · simp only [hempty, if_true]
    exact repeats_pure _
  · simp only [hempty]
    exact (repeats_taskChecked hsteady hs (.install packages below) hb).bind
      fun _ => repeats_pure _

theorem repeats_list (task : Task) (hdown : task.Down) {directory directory' : Path}
    (htask : task.command kit z.name = kit.npm.listCommand directory)
    (htask' : task.command kit z.name' = kit.npm.listCommand directory') :
    Repeats (Twins z w₀ w₀') (kit.npm.list kit.tools directory)
      (kit.npm.list kit.tools directory') := by
  unfold Npm.list
  rw [← htask, ← htask']
  refine (repeats_task hsteady hs task hdown).bind fun output => ?_
  dsimp only
  cases Json.load (if output.stdout.isEmpty then "\x7b\x7d" else output.stdout).toList with
  | error e => cases e <;> exact follows_fail _ _
  | ok listing =>
    dsimp only
    cases Npm.listed listing with
    | error m => exact follows_fail _ _
    | ok names => exact repeats_pure _

end Tasks

/-! The parts of a build -/

section Parts

variable (hs : Start z w₀ w₀')

include hs

theorem follows_scaffold (nodes : List Export.Node)
    (hmanifest : ∃ b b', w₀.disk.read z.here (z.project.child manifestName) = .ok b ∧
      w₀'.disk.read z.here (z.project.child manifestName) = .ok b' ∧
        SameManifest z.unseen z.named b b') :
    Follows (Twins z w₀ w₀') (scaffold z.project ⟨0, [z.name]⟩ nodes)
      (scaffold z.project ⟨0, [z.name']⟩ nodes) fun a b v v' =>
        a = ⟨0, [z.name, "stub.js"]⟩ ∧ b = ⟨0, [z.name', "stub.js"]⟩ ∧ Twins z w₀ w₀' v v' := by
  obtain ⟨b, b', hread, hread', hsame⟩ := hmanifest
  have htrail := trail_file manifestName (by decide)
    (hs.apart z.project (by simp [Pairing.projects, projects]))
  -- Neither build has written to the project, so each still finds the manifest that it began with.
  have hnow {w w' : World τ σ} (hw : Twins z w₀ w₀' w w') :
      w.disk.read w.here (z.project.child manifestName) = .ok b ∧
        w'.disk.read w'.here (z.project.child manifestName) = .ok b' := by
    rw [hw.here hs, hw.here' hs, ← hread, ← hread']
    exact ⟨Disk.read_congr fun l hl => hw.kept hs (htrail l hl),
      Disk.read_congr fun l hl => hw.kept' hs (htrail l hl)⟩
  have hthere : Follows (Twins z w₀ w₀') (isFile (z.project.child manifestName))
      (isFile (z.project.child manifestName)) fun a a' v v' =>
        (a = true ∧ a' = true) ∧ Twins z w₀ w₀' v v' := by
    refine follows_inquire fun w w' hw => ?_
    rw [Disk.isFile_of_read (hnow hw).1, Disk.isFile_of_read (hnow hw).2]
    exact .ok ⟨rfl, rfl⟩
  have hbytes : Follows (Twins z w₀ w₀') (readBytes (z.project.child manifestName))
      (readBytes (z.project.child manifestName)) fun a a' v v' =>
        (a = b ∧ a' = b') ∧ Twins z w₀ w₀' v v' := by
    refine follows_inquire fun w w' hw => ?_
    rw [(hnow hw).1, (hnow hw).2]
    exact .ok ⟨rfl, rfl⟩
  have hlike : z.LikeAt [manifestName] b b' := by
    rw [Pairing.LikeAt, if_pos rfl]
    exact hsame
  unfold scaffold
  refine (repeats_makeDirectories hs [] (by decide)).bind fun _ => ?_
  refine hthere.bind fun a a' => ?_
  rintro w w' ⟨⟨rfl, rfl⟩, hw⟩
  refine Follows.bind hbytes (fun a a' => ?_) hw
  rintro w w' ⟨⟨rfl, rfl⟩, hw⟩
  rw [child_manifest, child_manifest, child_stub, child_stub]
  refine Follows.bind (repeats_writeBytes hs [manifestName] (by decide) hlike)
    (fun _ _ => ?_) hw
  rintro w w' ⟨_, hw⟩
  refine Follows.bind (repeats_writeText hs ["stub.js"] (by decide) (by decide) _)
    (fun _ _ => ?_) hw
  exact follows_pure fun _ _ h => ⟨rfl, rfl, h.2⟩

omit hs in
theorem perform_packageName (p : Path) (w : World τ σ) :
    (packageName p).perform w = (match w.disk.isFile w.here (p.child manifestName) with
      | .error f => .error (.disk f)
      | .ok false => .ok none
      | .ok true =>
        match w.disk.read w.here (p.child manifestName) with
        | .error f => .error (.disk f)
        | .ok bytes => nameIn bytes, w) := by
  rw [packageName, perform_bind, perform_readJson?, Disk.document?]
  cases w.disk.isFile w.here (p.child manifestName) with
  | error f => rfl
  | ok there =>
    cases there with
    | false => rfl
    | true =>
      dsimp only
      cases w.disk.read w.here (p.child manifestName) with
      | error f => rfl
      | ok bytes =>
        dsimp only
        rw [nameIn]
        cases documentOf bytes with
        | error e => rfl
        | ok v =>
          dsimp only [Except.map]
          rw [perform_bind, perform_lift]
          cases v.requireMembers with
          | error m => rfl
          | ok members => rfl

theorem repeats_packageName (hnamed : z.named) :
    Repeats (Twins z w₀ w₀') (packageName ⟨0, [z.name]⟩) (packageName ⟨0, [z.name']⟩) := by
  intro w w' hw a v hv
  rw [perform_packageName, child_manifest] at hv
  rw [perform_packageName, child_manifest]
  have hsmall : isSmall [manifestName] = true := by decide
  have hthere := isFile_twin hw.rooted (hs.roomy.modest hsmall) (hs.roomy'.modest hsmall)
  have hread := read_twin hw.rooted (hs.roomy.modest hsmall) (hs.roomy'.modest hsmall)
  rw [hw.here hs] at hv
  rw [hw.here' hs]
  simp only [List.singleton_append] at hv ⊢
  generalize w.disk.isFile z.here ⟨0, [z.name, manifestName]⟩ = x at hthere hv
  generalize w'.disk.isFile z.here ⟨0, [z.name', manifestName]⟩ = x' at hthere ⊢
  cases hthere with
  | error hcause => cases hv
  | ok hsame =>
    obtain rfl := hsame
    rename_i there
    cases there with
    | false =>
      cases hv
      exact ⟨none, w', rfl, rfl, hw⟩
    | true =>
      dsimp only at hv ⊢
      generalize w.disk.read z.here ⟨0, [z.name, manifestName]⟩ = y at hread hv
      generalize w'.disk.read z.here ⟨0, [z.name', manifestName]⟩ = y' at hread ⊢
      cases hread with
      | error hcause => cases hv
      | ok hlike =>
        rename_i bytes bytes'
        rw [Pairing.LikeAt, if_pos rfl] at hlike
        have hname : nameIn bytes' = nameIn bytes := by
          rcases hlike with rfl | ⟨_, hname, _⟩
          · rfl
          · exact hname hnamed
        obtain ⟨ha, rfl⟩ := Prod.mk.inj hv
        refine ⟨a, w', ?_, rfl, hw⟩
        dsimp only at ha ⊢
        rw [hname, ha]

theorem repeats_readLock (label : String) {below : List String} (hb : isSmall below = true)
    (hchild : isSmall (below ++ [lockName]) = true) (hne : below ≠ [manifestName]) :
    Repeats (Twins z w₀ w₀') (readLock label ⟨0, z.name :: below⟩)
      (readLock label ⟨0, z.name' :: below⟩) := by
  have hne' : below ++ [lockName] ≠ [manifestName] := by
    intro h
    have hlast := congrArg List.getLast? h
    rw [List.getLast?_concat, List.getLast?_singleton] at hlast
    exact absurd (Option.some.inj hlast) (by decide)
  unfold readLock
  refine (repeats_isDirectory hs _ hb).bind fun there => ?_
  cases there with
  | true =>
    rw [if_pos rfl, if_pos rfl, child_lock, child_lock]
    exact (repeats_readJson hs _ hchild hne').bind fun _ => repeats_lift _ _
  | false =>
    rw [if_neg (by decide), if_neg (by decide)]
    exact (repeats_readJson hs _ hb hne).bind fun _ => repeats_lift _ _

end Parts

section Capture

variable {kit : Kit τ} (hsteady : Steady kit z.config z.project z.unseen) (hs : Start z w₀ w₀')

include hsteady hs

theorem repeats_captureSide {label : String} (hlabel : label ∈ [hostLabel, bundleLabel])
    (dependencies : List String) :
    Repeats (Twins z w₀ w₀')
      (captureSide (kit.npm.installer kit.tools) label dependencies ⟨0, [z.name]⟩)
      (captureSide (kit.npm.installer kit.tools) label dependencies ⟨0, [z.name']⟩) := by
  have hup := label_ne_up hlabel
  have hsmall : ∀ label ∈ [hostLabel, bundleLabel], isSmall [label] = true ∧
      isSmall [label, manifestName] = true ∧ isSmall [label, lockName] = true ∧
      isSmall [label, lockName, lockName] = true := by decide
  obtain ⟨hside, hmanifest, hlock, hdeep⟩ := hsmall label hlabel
  unfold captureSide
  simp only [child_label hlabel, child_manifest, child_lock]
  refine (repeats_makeDirectories hs _ hside).bind fun _ => ?_
  refine (repeats_writeText hs _ hmanifest (by simp) _).bind fun _ => ?_
  refine (repeats_install hsteady hs dependencies (by simpa using hup)).bind fun _ => ?_
  refine (repeats_isFile hs _ hlock).bind fun there => ?_
  cases there with
  | true => exact repeats_readLock hs label hlock hdeep (by simp)
  | false => exact repeats_pure _

theorem repeats_capture (hnamed : z.named) (host : Path) :
    Repeats (Twins z w₀ w₀')
      (capture (kit.npm.installer kit.tools) host ⟨0, [z.name]⟩ ⟨0, [z.name]⟩)
      (capture (kit.npm.installer kit.tools) host ⟨0, [z.name']⟩ ⟨0, [z.name']⟩) := by
  unfold capture
  refine (repeats_packageName hs hnamed).bind fun own => ?_
  refine (repeats_list hsteady hs (.listHost host) trivial rfl rfl).bind fun hostNames => ?_
  refine (repeats_list hsteady hs .list trivial rfl rfl).bind fun projectNames => ?_
  refine (repeats_captureSide hsteady hs (by simp) _).bind fun hostSide => ?_
  exact (repeats_captureSide hsteady hs (by simp) _).bind fun projectSide => repeats_pure _

theorem repeats_resolveExternals :
    Repeats (Twins z w₀ w₀') (resolveExternals kit z.config.host ⟨0, [z.name]⟩)
      (resolveExternals kit z.config.host ⟨0, [z.name']⟩) := by
  unfold resolveExternals
  cases hhost : z.config.host with
  | none => exact repeats_pure _
  | some host =>
    have hnamed : z.named := by simp [Pairing.named, hhost]
    exact (repeats_capture hsteady hs hnamed host).bind fun _ => repeats_lift _ _

theorem repeats_bundle (externals : List String) :
    Repeats (Twins z w₀ w₀')
      (kit.browserify.bundle kit.tools [⟨0, [z.name, "stub.js"]⟩] externals
        (Path.child ⟨0, [z.name]⟩ "bundle.js"))
      (kit.browserify.bundle kit.tools [⟨0, [z.name', "stub.js"]⟩] externals
        (Path.child ⟨0, [z.name']⟩ "bundle.js")) := by
  rw [child_bundle, child_bundle]
  refine (repeats_taskChecked hsteady hs (.bundle externals) trivial).bind fun _ => ?_
  exact (repeats_readText hs ["bundle.js"] (by decide) (by decide)).bind
    fun _ => repeats_pure _

theorem follows_minifyIn (source : String) :
    Follows (Twins z w₀ w₀') (kit.minifier.minifyIn kit.tools source ⟨0, [z.name]⟩)
      (kit.minifier.minifyIn kit.tools source ⟨0, [z.name']⟩) fun a b _ _ => b = a := by
  unfold Minifier.minifyIn
  simp only [child_input, child_minified]
  refine (repeats_writeText hs ["input.js"] (by decide) (by decide) _).bind fun _ => ?_
  refine Follows.bind (repeats_taskChecked hsteady hs .minify trivial).attempt fun r r' => ?_
  rintro w w' (⟨output, rfl, rfl, hw⟩ | ⟨e, rfl⟩)
  · exact ((repeats_readText hs ["output.js"] (by decide) (by decide)).bind fun text =>
      follows_pure fun _ _ _ => rfl) hw
  · intro a v hv
    cases e <;> cases hv

end Capture

/-- There is room for the temporary directory of the minifier beside the one of the build. -/
structure Spare [Depths] (name : String) (w : World τ σ) : Prop where
  roomy : Roomy (minifyName (w.temporaries + 1))
  other : name ≠ minifyName (w.temporaries + 1)
  free : IsFree w.disk w.here (minifyName (w.temporaries + 1))

theorem not_inside_of_ne {name other : String} (h : name ≠ other) (here : Location)
    (below : List String) : ¬ Inside name here (here ++ other :: below) := by
  rintro ⟨rest, hrest⟩
  rw [List.append_assoc, List.append_cancel_left_eq, List.singleton_append,
    List.cons.injEq] at hrest
  exact h hrest.1

theorem SameBut.spare {name : String} {w v : World τ σ} (h : SameBut name w v)
    (hspare : Spare name w) : Spare name v := by
  obtain ⟨hroomy, hother, hfree⟩ := hspare
  rw [← h.temporaries] at hroomy hother hfree
  refine ⟨hroomy, hother, fun below => ?_⟩
  rw [h.here, h.kept _ (not_inside_of_ne hother w.here below), hfree below]

section Produce

variable {kit : Kit τ} (hsteady : Steady kit z.config z.project z.unseen) (hs : Start z w₀ w₀')

include hsteady hs

theorem follows_minify (hspare : Spare z.name w₀) (hspare' : Spare z.name' w₀')
    (source : String) :
    Follows (Twins z w₀ w₀') (kit.minifier.minify kit.tools source)
      (kit.minifier.minify kit.tools source) fun a b _ _ => b = a := by
  intro w w' hw a v hv
  have hhere := hw.here hs
  have hhere' := hw.here' hs
  obtain ⟨hroomy, _, hfree⟩ := hw.left.spare hspare
  obtain ⟨hroomy', _, hfree'⟩ := hw.right.spare hspare'
  have hmake : (makeTemporary "anywhereify-minify-").perform w =
      (.ok ⟨0, [minifyName (w.temporaries + 1)]⟩,
        withTemporary w (minifyName (w.temporaries + 1))) :=
    perform_makeTemporary hroomy (by rw [hhere, hw.rooted.left]) hfree
  have hmake' : (makeTemporary "anywhereify-minify-").perform w' =
      (.ok ⟨0, [minifyName (w'.temporaries + 1)]⟩,
        withTemporary w' (minifyName (w'.temporaries + 1))) :=
    perform_makeTemporary hroomy' (by rw [hhere', hw.rooted.right]) hfree'
  rw [hhere] at hfree
  rw [hhere'] at hfree'
  rw [Minifier.minify, perform_bind, hmake] at hv
  rw [Minifier.minify, perform_bind, hmake']
  generalize minifyName (w.temporaries + 1) = name at hroomy hfree hv
  generalize minifyName (w'.temporaries + 1) = name' at hroomy' hfree' ⊢
  have houtside : SameOutside ⟨z.config, z.project, z.unseen, z.here, name, name'⟩ w.disk w'.disk :=
    ⟨(hw.alike hs).directories, (hw.alike hs).outside, (hw.alike hs).state⟩
  have hnext := houtside.start hhere hhere' hroomy hroomy' hw.rooted.left hs.apart hfree hfree'
  exact (follows_minifyIn (z := ⟨z.config, z.project, z.unseen, z.here, name, name'⟩) hsteady hnext
    source).ensuring (hnext.twins hw.tools) hv

theorem follows_produce (hspare : Spare z.name w₀) (hspare' : Spare z.name' w₀')
    (nodes : List Export.Node)
    (hmanifest : ∃ b b', w₀.disk.read z.here (z.project.child manifestName) = .ok b ∧
      w₀'.disk.read z.here (z.project.child manifestName) = .ok b' ∧
        SameManifest z.unseen z.named b b') :
    Follows (Twins z w₀ w₀') (produce kit z.config z.project nodes ⟨0, [z.name]⟩)
      (produce kit z.config z.project nodes ⟨0, [z.name']⟩) fun a b _ _ => b = a := by
  unfold produce
  refine (repeats_announce kit _).bind fun _ => ?_
  refine (follows_scaffold hs nodes hmanifest).bind fun stub stub' => ?_
  rintro w w' ⟨rfl, rfl, hw⟩
  revert w w'
  change Follows (Twins z w₀ w₀') _ _ _
  refine (repeats_announce kit _).bind fun _ => ?_
  refine (repeats_install hsteady hs _ (by simp)).bind fun _ => ?_
  refine (repeats_announce kit _).bind fun _ => ?_
  refine (repeats_resolveExternals hsteady hs).bind fun externals => ?_
  refine (repeats_announce kit _).bind fun _ => ?_
  refine (repeats_bundle hsteady hs externals).bind fun bundle => ?_
  refine (repeats_assemble bundle nodes).bind fun source => ?_
  by_cases hminify : z.config.minify = true
  · rw [if_pos hminify]
    refine (repeats_announce kit _).bind fun _ => ?_
    refine (follows_minify hsteady hs hspare hspare' source).bind fun a b => ?_
    rintro w w' rfl result v hv
    cases hv
    exact ⟨_, w', rfl, rfl⟩
  · rw [if_neg hminify]
    exact follows_pure fun _ _ _ => rfl

end Produce

end ExportBundle.Build
