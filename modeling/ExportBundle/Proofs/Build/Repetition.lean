import ExportBundle.Proofs.Build.Rebuild

/-! Builds that are served from a record after manifests and lockfiles were edited. Main statements,
for every configuration and every edit that the tools do not see: such a build has the result of the
one that made the record; a forced build instead has it too, with the same output, if the manifest
of the project is there and gives the same name where names count; and without the manifest a forced
build fails. -/

namespace ExportBundle.Build

open Act
open Json (Value)

variable {depths : Depths} {τ σ : Type}

/-- No path of a build goes through a temporary directory. -/
structure Apart (config : Config) (project : Path) (here : Location) : Prop where
  inputs : ∀ directory ∈ projects config project, ∀ l ∈ directory.trail here, ¬ Temporary here l
  out : ∀ l ∈ config.out.trail here, ¬ Temporary here l

/-- Between the two worlds manifests and lockfiles were edited, and nothing else but temporary
directories. -/
structure Edited (directories : List Path) (w v : World τ σ) : Prop where
  here : v.here = w.here
  kept : ∀ l, ¬ Temporary w.here l → ¬ IsInput directories w.here l →
    v.disk.lookup l = w.disk.lookup l
  stays : ∀ l, IsInput directories w.here l → w.disk.lookup l = some .directory →
    v.disk.lookup l = some .directory

section Edit

variable {directories : List Path} {config : Config} {project : Path} {w v : World τ σ}

theorem Edited.directory (h : Edited directories w v) {l : Location} (hl : ¬ Temporary w.here l)
    (hdir : w.disk.lookup l = some .directory) : v.disk.lookup l = some .directory := by
  by_cases hin : IsInput directories w.here l
  · exact h.stays l hin hdir
  · rw [h.kept l hl hin, hdir]

theorem not_isInput_child {here : Location} {out : Path} {name : String}
    (hmanifest : name ≠ manifestName) (hlock : name ≠ lockName) :
    ¬ IsInput directories here (out.place here ++ [name]) := by
  rintro ⟨directory, _, h | h⟩
  · exact hmanifest (List.singleton_inj.1 (List.append_inj' h rfl).2)
  · exact hlock (List.singleton_inj.1 (List.append_inj' h rfl).2)

theorem Edited.isDirectory (h : Edited directories w v) {p : Path}
    (hp : ∀ l ∈ p.trail w.here, ¬ Temporary w.here l)
    (hdir : w.disk.isDirectory w.here p = .ok true) : v.disk.isDirectory v.here p = .ok true := by
  obtain ⟨hleads, hthere⟩ := Disk.isDirectory_eq_true_iff.1 hdir
  rw [h.here]
  refine Disk.isDirectory_eq_true_iff.2 ⟨hleads.transfer fun m hm => ?_, ?_⟩
  · exact h.directory (hp m (Path.way_subset_trail hm))
  · exact h.directory (hp _ Path.place_mem_trail) hthere

theorem Edited.read (h : Edited directories w v) {p : Path} {bytes : List UInt8}
    (hp : ∀ l ∈ p.trail w.here, ¬ Temporary w.here l)
    (hplace : ¬ IsInput directories w.here (p.place w.here))
    (hread : w.disk.read w.here p = .ok bytes) : v.disk.read v.here p = .ok bytes := by
  obtain ⟨hleads, hfile⟩ := Disk.read_eq_ok_iff.1 hread
  rw [h.here]
  refine Disk.read_eq_ok_iff.2 ⟨hleads.transfer fun m hm => ?_, ?_⟩
  · exact h.directory (hp m (Path.way_subset_trail hm))
  · rw [h.kept _ (hp _ Path.place_mem_trail) hplace, hfile]

theorem Left.of_edited {digest time source : String} {externals : List String}
    (h : Left config w digest time externals source) (hedited : Edited directories w v)
    (hout : ∀ l ∈ config.out.trail w.here, ¬ Temporary w.here l) :
    Left config v digest time externals source := by
  have houtput := trail_file outputName (by decide) hout
  have hrecord := trail_file recordName (by decide) hout
  refine ⟨hedited.isDirectory hout h.directory, hedited.read houtput ?_ h.output,
    hedited.read hrecord ?_ h.record⟩
  · rw [place_output]
    exact not_isInput_child (by decide) (by decide)
  · rw [place_record]
    exact not_isInput_child (by decide) (by decide)

end Edit

/-! A build, an edit, and a build that is served from the record -/

section Served

variable [Identifier.Supply σ] {kit : Kit τ} {config : Config} {project : Path} {unseen : Unseen}
  {w v x : World τ σ} {r r' : Result}

/-- A build that made its output: what it prepared, produced and left. -/
structure Anew [Depths] (kit : Kit τ) (config : Config) (project : Path) (w v : World τ σ)
    (nodes : List Export.Node) (inputs : Value) (externals : List String) (source : String) :
    Prop where
  prepared : ∃ u, Prepared kit config project w u nodes inputs
  produced : ∃ u y, World.Agrees w u ∧
    (produce kit config project nodes (scratch u)).perform (withScratch u) =
      (.ok (externals, source), y)
  listener : kit.listener (.writing (config.out.child outputName)) = .ok ()
  left : ∃ digest time, Canonical.fingerprint (.ofJson inputs) = .ok digest ∧
    Left config v digest time externals source
  delivers : Delivers Temporary config.out w v

theorem anew_of_build {force : Bool} (hkeeps : KeepsInside kit) (hroom : Room w)
    (hout : ∀ l ∈ config.out.trail w.here, ¬ Temporary w.here l)
    (h : (build kit config project force).perform w = (.ok r, v)) (hnew : r.cached = false) :
    ∃ nodes inputs externals source,
      Anew kit config project w v nodes inputs externals source ∧
      r = ⟨config.out.child outputName, Export.Node.packages nodes, externals.map .str, false⟩ := by
  obtain ⟨nodes, inputs, u₀, hprepared, record, u, hknown, hconclude⟩ := build_eq_ok h
  have hagrees : World.Agrees w u := IsTrans.trans _ _ _ hprepared.agrees (known_agrees hknown)
  rcases conclude_eq_ok hconclude with ⟨_, _, rfl⟩ | ⟨_, externals, hrebuild, rfl⟩
  · cases hnew
  · rw [← hagrees.here] at hout
    have hroom' : Room u := hroom.of_agrees hagrees
    obtain ⟨p, x, source, y, hmake, hproduce, hlistener, hleft, hdelivers⟩ :=
      rebuild_eq_ok hkeeps.keepsTo hroom'.standing (avoids_temporary hout) hrebuild
    obtain ⟨rfl, rfl⟩ : scratch u = p ∧ withScratch u = x := by
      rw [hroom'.makeTemporary] at hmake
      cases hmake
      exact ⟨rfl, rfl⟩
    refine ⟨nodes, inputs, externals, source, ⟨⟨u₀, hprepared⟩, ⟨u, y, hagrees, hproduce⟩,
      hlistener, hleft, ?_⟩, rfl⟩
    obtain ⟨hhere, hdirectories, hkept⟩ := hdelivers
    rw [hagrees.here] at hhere hdirectories hkept
    rw [hagrees.disk] at hdirectories hkept
    exact ⟨hhere, hdirectories, hkept⟩

/-- A build, an edit of manifests and lockfiles that the tools do not see, and a build that is
served from the record of the first one. -/
structure Served [Depths] (kit : Kit τ) (config : Config) (project : Path) (unseen : Unseen)
    (w v x : World τ σ) (r r' : Result) : Prop where
  first : ∃ force, (build kit config project force).perform w = (.ok r, v)
  anew : r.cached = false
  edited : Edited (projects config project) v x
  files : ∀ directory ∈ projects config project,
    SameFile unseen w.disk x.disk w.here (directory.child manifestName) ∧
      SameFile unseen w.disk x.disk w.here (directory.child lockName)
  tools : x.tools = w.tools
  names : x.names = w.names
  distinct : NoCollision config project w x
  second : ∃ y, (build kit config project false).perform x = (.ok r', y)
  cached : r'.cached = true

/-- What is known of the second build: it starts like the first one, and finds what that has left. -/
structure Again [Depths] (kit : Kit τ) (config : Config) (project : Path) (w v x : World τ σ)
    (nodes : List Export.Node) (inputs : Value) (externals : List String) (source : String) :
    Prop where
  prepared : ∃ u, Prepared kit config project x u nodes inputs
  left : ∃ digest time, Canonical.fingerprint (.ofJson inputs) = .ok digest ∧
    Left config x digest time externals source
  documents : ∀ directory ∈ projects config project,
    SameDocuments w.disk x.disk w.here directory

theorem Served.again (h : Served kit config project unseen w v x r r')
    (hkeeps : KeepsInside kit) (hroom : Room w) (hapart : Apart config project w.here) :
    ∃ nodes inputs inputs' externals source,
      Anew kit config project w v nodes inputs externals source ∧
      Again kit config project w v x nodes inputs' externals source ∧
      r = ⟨config.out.child outputName, Export.Node.packages nodes, externals.map .str, false⟩ ∧
      r' = ⟨config.out.child outputName, Export.Node.packages nodes, externals.map .str, true⟩ := by
  obtain ⟨force, hfirst⟩ := h.first
  obtain ⟨nodes, inputs, externals, source, hanew, hr⟩ :=
    anew_of_build hkeeps hroom hapart.out hfirst h.anew
  obtain ⟨digest, time, hdigest, hleft⟩ := hanew.left
  obtain ⟨u₀, hprepared⟩ := hanew.prepared
  have hherev : v.here = w.here := hanew.delivers.here
  have hhere : x.here = w.here := h.edited.here.trans hherev
  have hleft' : Left config x digest time externals source :=
    hleft.of_edited h.edited (by rw [hherev]; exact hapart.out)
  obtain ⟨y, hsecond⟩ := h.second
  obtain ⟨nodes', inputs', u, hprepared', record, u', hknown, hconclude⟩ := build_eq_ok hsecond
  have hnodes : nodes' = nodes := by
    have hcompiled := hprepared'.compiled
    rw [h.names, hprepared.compiled] at hcompiled
    exact (Except.ok.inj hcompiled).symm
  rcases conclude_eq_ok hconclude with ⟨known, rfl, hr'⟩ | ⟨_, _, _, hr'⟩
  · obtain ⟨⟨bytes, doc, hbytes, hdoc, hrecord⟩, -, digest', hdigest', htext⟩ :=
      lookup_eq_some hknown
    rw [hprepared'.agrees.disk, hprepared'.agrees.here, hleft'.record] at hbytes
    obtain rfl := Except.ok.inj hbytes
    obtain rfl := Record.eq_noted hdoc hrecord
    obtain rfl : digest = digest' := Option.some.inj htext
    subst hnodes
    refine ⟨nodes', inputs, inputs', externals, source, hanew, ⟨⟨u, hprepared'⟩,
      ⟨digest, time, hdigest', hleft'⟩, ?_⟩, hr, hr'⟩
    exact sameDocuments_of_fingerprint h.distinct hhere hprepared.inputs hprepared'.inputs
      hdigest hdigest'
  · rw [hr'] at h
    cases h.cached

omit [Identifier.Supply σ] in
theorem sameManifest_of_documents {named : Prop} {bytes bytes' : List UInt8}
    (hread : w.disk.read w.here (project.child manifestName) = .ok bytes)
    (hread' : x.disk.read w.here (project.child manifestName) = .ok bytes')
    (hdocuments : SameDocuments w.disk x.disk w.here project)
    (hfile : SameFile unseen w.disk x.disk w.here (project.child manifestName))
    (hname : named → nameIn bytes' = nameIn bytes) : SameManifest unseen named bytes bytes' := by
  unfold SameFile contents at hfile
  rw [hread, hread'] at hfile
  rcases hfile with hsame | hunseen
  · exact .inl (Option.some.inj hsame)
  · obtain ⟨m, m', hm, hm', hdependencies⟩ := hdocuments.dependencies
    rw [Disk.document?_of_read hread] at hm
    rw [Disk.document?_of_read hread'] at hm'
    refine .inr ⟨?_, hname, hunseen⟩
    cases hb : documentOf bytes with
    | error e =>
      rw [hb] at hm
      cases hm
    | ok doc =>
      cases hb' : documentOf bytes' with
      | error e =>
        rw [hb'] at hm'
        cases hm'
      | ok doc' =>
        rw [hb] at hm
        rw [hb'] at hm'
        cases hm
        cases hm'
        exact ⟨doc, doc', rfl, rfl, hdependencies⟩

theorem Served.sameOutside (h : Served kit config project unseen w v x r r')
    (hdelivers : Delivers Temporary config.out w v)
    (hdocuments : ∀ directory ∈ projects config project,
      SameDocuments w.disk x.disk w.here directory) (name name' : String) :
    SameOutside ⟨config, project, unseen, w.here, name, name'⟩ w.disk x.disk where
  directories l hl hdir := by
    have hl' : ¬ Temporary v.here l := by rwa [hdelivers.here]
    exact h.edited.directory hl' (hdelivers.directories l (.inr hl) hdir)
  outside l hl hout hin := by
    have hl' : ¬ Temporary v.here l := by rwa [hdelivers.here]
    have hin' : ¬ IsInput (projects config project) v.here l := by rwa [hdelivers.here]
    rw [h.edited.kept l hl' hin', hdelivers.kept l hl hout]
  state directory hd := by
    obtain ⟨hmanifest, hlock⟩ := h.files directory hd
    exact ⟨hdocuments directory hd, hmanifest, hlock⟩

/-- A build that is served from a record has the result of the build that made it. -/
theorem Served.result_eq (h : Served kit config project unseen w v x r r')
    (hkeeps : KeepsInside kit) (hroom : Room w) (hapart : Apart config project w.here) :
    r' = { r with cached := true } := by
  obtain ⟨_, _, _, _, _, _, _, rfl, rfl⟩ := h.again hkeeps hroom hapart
  rfl

theorem Served.start (h : Served kit config project unseen w v x r r') (hroom : Room w)
    (hroom' : Room x) (hapart : Apart config project w.here)
    (hdelivers : Delivers Temporary config.out w v)
    (hdocuments : ∀ directory ∈ projects config project,
      SameDocuments w.disk x.disk w.here directory) {u u' : World τ σ}
    (hagrees : World.Agrees w u) (hagrees' : World.Agrees x u') :
    Start ⟨config, project, unseen, w.here, projectName (u.temporaries + 1),
      projectName (u'.temporaries + 1)⟩ (withScratch u) (withScratch u') := by
  have hroomu : Room u := hroom.of_agrees hagrees
  have hroomu' : Room u' := hroom'.of_agrees hagrees'
  have hhere : u.here = w.here := hagrees.here
  have hhere' : u'.here = w.here := hagrees'.here.trans (h.edited.here.trans hdelivers.here)
  have houtside := h.sameOutside hdelivers hdocuments (projectName (u.temporaries + 1))
    (projectName (u'.temporaries + 1))
  rw [← hagrees.disk, ← hagrees'.disk] at houtside
  have hfew := hroomu.few
  have hfew' := hroomu'.few
  have hstanding := hroomu.standing
  have hfree := (hroomu.unused _ (Nat.lt_succ_self _)).1
  have hfree' := (hroomu'.unused _ (Nat.lt_succ_self _)).1
  rw [hhere] at hstanding hfree
  rw [hhere'] at hfree'
  exact houtside.start hhere hhere' (roomy_project (by omega)) (roomy_project (by omega))
    hstanding hapart.inputs hfree hfree'

/-- What the first build produced is produced again after the edit, if the manifest is there and has
the same name where names count. -/
theorem Served.produce_eq (h : Served kit config project unseen w v x r r')
    (hsteady : Steady kit config project unseen) (hroom : Room w) (hroom' : Room x)
    (hapart : Apart config project w.here) {nodes : List Export.Node} {inputs inputs' : Value}
    {externals : List String} {source : String}
    (hanew : Anew kit config project w v nodes inputs externals source)
    (hagain : Again kit config project w v x nodes inputs' externals source) {u' : World τ σ}
    (hagrees' : World.Agrees x u') {bytes' : List UInt8}
    (hread' : x.disk.read w.here (project.child manifestName) = .ok bytes')
    (hname : config.host ≠ none → ∀ bytes,
      w.disk.read w.here (project.child manifestName) = .ok bytes →
        nameIn bytes' = nameIn bytes) :
    ∃ y, (produce kit config project nodes (scratch u')).perform (withScratch u') =
      (.ok (externals, source), y) := by
  obtain ⟨u, y, hagrees, hproduce⟩ := hanew.produced
  have hroomu : Room u := hroom.of_agrees hagrees
  have hroomu' : Room u' := hroom'.of_agrees hagrees'
  have hstart := h.start hroom hroom' hapart hanew.delivers hagain.documents hagrees hagrees'
  have hinputs : ∀ l ∈ project.trail u.here, ¬ Temporary u.here l := by
    rw [hagrees.here]
    exact hapart.inputs project List.mem_cons_self
  obtain ⟨_, bytes, hread⟩ := produce_eq_ok hroomu.makeTemporary hinputs hproduce
  rw [hagrees.disk, hagrees.here] at hread
  have hsame : SameManifest unseen (config.host ≠ none) bytes bytes' :=
    sameManifest_of_documents hread hread' (hagain.documents project List.mem_cons_self)
      (h.files project List.mem_cons_self).1 fun hnamed => hname hnamed bytes hread
  -- the temporary projects do not lie on the way to the manifest
  have htrail := trail_file manifestName (by decide) (hapart.inputs project List.mem_cons_self)
  have hstill : (withScratch u).disk.read w.here (project.child manifestName) = .ok bytes := by
    rw [Disk.read_congr fun l hl => lookup_withScratch (by rw [hagrees.here]; exact htrail l hl),
      hagrees.disk, hread]
  have hstill' : (withScratch u').disk.read w.here (project.child manifestName) = .ok bytes' := by
    have hhere' : u'.here = w.here :=
      hagrees'.here.trans (h.edited.here.trans hanew.delivers.here)
    rw [Disk.read_congr fun l hl => lookup_withScratch (by rw [hhere']; exact htrail l hl),
      hagrees'.disk, hread']
  have htools : (withScratch u').tools = (withScratch u).tools :=
    hagrees'.tools.trans (h.tools.trans hagrees.tools.symm)
  obtain ⟨_, y', hproduce', rfl⟩ := follows_produce hsteady hstart hroomu.spare hroomu'.spare nodes
    ⟨bytes, bytes', hstill, hstill', hsame⟩ (hstart.twins htools) hproduce
  exact ⟨y', hproduce'⟩

/-- Instead of being served from a record a build can be forced, with the same result and the same
output, if the manifest is there and has the same name where names count. -/
theorem Served.forced_eq (h : Served kit config project unseen w v x r r')
    (hsteady : Steady kit config project unseen) (hroom : Room w) (hroom' : Room x)
    (hapart : Apart config project w.here) {bytes' : List UInt8}
    (hread' : x.disk.read w.here (project.child manifestName) = .ok bytes')
    (hname : config.host ≠ none → ∀ bytes,
      w.disk.read w.here (project.child manifestName) = .ok bytes →
        nameIn bytes' = nameIn bytes) :
    ∃ y, (build kit config project true).perform x = (.ok r, y) ∧
      y.disk.read w.here (config.out.child outputName) =
        v.disk.read w.here (config.out.child outputName) := by
  obtain ⟨nodes, inputs, inputs', externals, source, hanew, hagain, rfl, -⟩ :=
    h.again hsteady.keeps hroom hapart
  obtain ⟨_, _, _, hmade⟩ := hanew.left
  obtain ⟨digest, time, hdigest, hleft⟩ := hagain.left
  obtain ⟨u', hprepared⟩ := hagain.prepared
  have hagrees' : World.Agrees x u' := hprepared.agrees
  have hhere : u'.here = w.here :=
    hagrees'.here.trans (h.edited.here.trans hanew.delivers.here)
  obtain ⟨y', hproduce⟩ := h.produce_eq hsteady hroom hroom' hapart hanew hagain hagrees' hread' hname
  have hleft' : Left config u' digest time externals source := by
    obtain ⟨hdirectory, houtput, hrecord⟩ := hleft
    refine ⟨?_, ?_, ?_⟩ <;> rwa [hagrees'.disk, hagrees'.here]
  have hout : ∀ l ∈ config.out.trail u'.here, ¬ Temporary u'.here l := by
    rw [hhere]
    exact hapart.out
  have hroomu' : Room u' := hroom'.of_agrees hagrees'
  obtain ⟨y, time', hrebuild, hherey, hlast⟩ := rebuild_of_left hsteady.keeps.keepsTo
    hroomu'.standing hroomu'.makeTemporary (avoids_temporary hout) hanew.listener hdigest hleft'
    hproduce
  refine ⟨y, ?_, ?_⟩
  · rw [perform_build_forced hprepared, perform_conclude_none, hrebuild]
    rfl
  · have houtput := hlast.output
    have houtput' := hmade.output
    rw [hherey, hhere] at houtput
    rw [hanew.delivers.here] at houtput'
    rw [houtput, houtput']

/-- Without the manifest of the project the build that is served could not have been forced. -/
theorem Served.forced_eq_error (h : Served kit config project unseen w v x r r')
    (hkeeps : KeepsInside kit) (hroom : Room w) (hroom' : Room x)
    (hapart : Apart config project w.here)
    (hmissing : x.disk.isFile w.here (project.child manifestName) = .ok false) :
    ∃ y, (build kit config project true).perform x = (.error (.noManifest project), y) := by
  obtain ⟨nodes, inputs, inputs', externals, source, hanew, hagain, -, -⟩ :=
    h.again hkeeps hroom hapart
  obtain ⟨u, _, hagrees, hproduce⟩ := hanew.produced
  obtain ⟨u', hprepared⟩ := hagain.prepared
  have hagrees' : World.Agrees x u' := hprepared.agrees
  have hhere : u'.here = w.here :=
    hagrees'.here.trans (h.edited.here.trans hanew.delivers.here)
  have hinputs : ∀ l ∈ project.trail w.here, ¬ Temporary w.here l :=
    hapart.inputs project List.mem_cons_self
  have hroomu : Room u := hroom.of_agrees hagrees
  have hroomu' : Room u' := hroom'.of_agrees hagrees'
  obtain ⟨hlistener, -⟩ := produce_eq_ok hroomu.makeTemporary
    (by rw [hagrees.here]; exact hinputs) hproduce
  have hmissing' : u'.disk.isFile u'.here (project.child manifestName) = .ok false := by
    rw [hagrees'.disk, hhere, hmissing]
  obtain ⟨y, hrebuild⟩ := rebuild_of_missing config inputs' nodes
    hroomu'.makeTemporary (by rw [hhere]; exact hinputs) hlistener hmissing'
  refine ⟨y, ?_⟩
  rw [perform_build_forced hprepared, perform_conclude_none, hrebuild]
  rfl

end Served

end ExportBundle.Build
