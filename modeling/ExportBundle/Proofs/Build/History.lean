import ExportBundle.Proofs.Build.Growth

/-! Builds one after the other into one output directory, with edits between them. Main statement: as
long as every build could write a record, a record that is there is that of the last delivery, and
the output next to it too; and a build that is served from it has the externals of that delivery.
When a record cannot be written it is otherwise: the output is written before, and an earlier record
stays. -/

namespace ExportBundle.Build

open Act
open Json (Value)

variable {depths : Depths} {τ σ : Type}

/-- What a new build writes: the fingerprint of its inputs, its externals and its output. -/
structure Delivery where
  digest : String
  externals : List String
  source : String

/-- A record in the directory is that of the last delivery, and so is the output next to it. -/
def Describes [Depths] (d : Disk) (out : Location) (last : Option Delivery) : Prop :=
  ∀ bytes, d.lookup (out ++ [recordName]) = some (.file bytes) →
    ∃ e time, last = some e ∧ bytes = (Record.noted e.digest time e.externals).bytes ∧
      d.lookup (out ++ [outputName]) = some (.file (Text.Utf8.encode e.source.toList))

/-- Where a build runs is a directory, and it writes to this one, which is not temporary. -/
structure Sited (config : Config) (out : Location) (w : World τ σ) : Prop where
  standing : w.disk.lookup w.here = some .directory
  place : config.out.place w.here = out
  outside : ∀ l ∈ config.out.trail w.here, ¬ Temporary w.here l

def Nowhere : Location → Location → Prop := fun _ _ => False

section Sites

variable {files : Location → Location → Prop} {config : Config} {out : Location}
  {w v : World τ σ} {last : Option Delivery}

theorem Describes.filled {d d' : Disk} (h : Describes d out last)
    (hrecord : Filled d d' (out ++ [recordName])) (houtput : Filled d d' (out ++ [outputName])) :
    Describes d' out last := by
  intro bytes hbytes
  obtain ⟨e, time, hlast, hnoted, hsource⟩ := h bytes (hrecord.file.1 hbytes)
  exact ⟨e, time, hlast, hnoted, houtput.file.2 hsource⟩

theorem Sited.grown (h : Sited config out w) (hgrown : Grown Temporary files w v) :
    Sited config out v := by
  refine ⟨hgrown.standing h.standing, ?_, ?_⟩
  · rw [hgrown.here]
    exact h.place
  · rw [hgrown.here]
    exact h.outside

theorem Sited.describes (h : Sited config out w) (hgrown : Grown Temporary Nowhere w v)
    (hd : Describes w.disk out last) : Describes v.disk out last := by
  have hout : ¬ Temporary w.here out := by
    rw [← h.place]
    exact h.outside _ Path.place_mem_trail
  refine hd.filled (hgrown.filled h.standing _ ?_ id) (hgrown.filled h.standing _ ?_ id)
  · exact not_temporary_child hout (not_temporary_file recordName (by decide))
  · exact not_temporary_child hout (not_temporary_file outputName (by decide))

end Sites

/-! Deliveries -/

section Deliver

variable {kit : Kit τ} {config : Config} {project : Path} {inputs : Value}
  {nodes : List Export.Node} {externals : List String} {source digest : String} {out : Location}
  {w v : World τ σ} {last : Option Delivery} {e : Failure}

theorem saveRecord_of_isDirectory {p : Path} (hdir : w.disk.isDirectory w.here p = .ok true)
    (hpath : (p.child recordName).objection? = none)
    (hdigest : Canonical.fingerprint (.ofJson inputs) = .ok digest)
    (h : (saveRecord p inputs externals).perform w = (.error e, v)) :
    v = w ∧ w.disk.lookup (p.place w.here ++ [recordName]) = some .directory := by
  have hmade := makeDirectories_of_isDirectory hdir
  rcases saveRecord_fails h with ⟨m, hm, _⟩ | hmake | ⟨bytes, hmake, hwriting⟩
  · rw [hdigest] at hm
    cases hm
  · rw [hmade] at hmake
    cases hmake
  · rw [hmade] at hmake
    cases hmake
    obtain ⟨f, hwrite, _⟩ := writeBytes_eq_error_iff.1 hwriting
    rw [child_record] at hpath hwrite
    exact ⟨rfl, Disk.lookup_of_write_eq_error hdir hpath (.inr (by decide)) (by decide) hwrite⟩

theorem deliver_describes_error (hsited : Sited config out w)
    (hpath : (config.out.child recordName).objection? = none)
    (hdigest : Canonical.fingerprint (.ofJson inputs) = .ok digest)
    (hd : Describes w.disk out last)
    (h : (deliver kit config inputs externals source).perform w = (.error e, v)) :
    Describes v.disk out last := by
  have hannounced : Moves (Grown Temporary Nowhere) (kit.announce
      (.writing (config.out.child outputName)) : Act τ σ Unit) :=
    grows_announce kit _
  have hmakes : Moves (Grown Temporary Nowhere) (makeDirectories config.out : Act τ σ Unit) :=
    grows_makeDirectories _
  rcases bind_eq_error_iff.1 h with hannounce | ⟨_, u, hannounce, hrest⟩
  · exact hsited.describes (hannounced.of_perform hannounce) hd
  rw [parent_output] at hrest
  have hgrown := hannounced.of_perform hannounce
  rcases bind_eq_error_iff.1 hrest with hmake | ⟨_, u', hmake, hrest⟩
  · exact hsited.describes (IsTrans.trans _ _ _ hgrown (hmakes.of_perform hmake)) hd
  have hgrown' : Grown Temporary Nowhere u u' := hmakes.of_perform hmake
  have hd' := (hsited.grown hgrown).describes hgrown' (hsited.describes hgrown hd)
  have hdir := (makeDirectories_eq_ok hmake).2
  rw [← hgrown'.here] at hdir
  rcases bind_eq_error_iff.1 hrest with hwriting | ⟨_, u'', hwriting, hrest⟩
  · obtain ⟨_, _, _, rfl⟩ := writeBytes_eq_error_iff.1 hwriting
    exact hd'
  obtain ⟨d, hwrite, rfl⟩ := writeBytes_eq_ok_iff.1 hwriting
  obtain ⟨_, htakes, rfl⟩ := Disk.write_eq_ok_iff.1 hwrite
  rcases bind_eq_error_iff.1 hrest with hsave | ⟨_, _, _, hreturn⟩
  · -- the output is new by now, but there is a directory where the record should be
    have hdir' := Disk.isDirectory_put (.file (Text.Utf8.encode source.toList)) hdir
      htakes.ne_directory
    obtain ⟨rfl, hentry⟩ := saveRecord_of_isDirectory hdir' hpath hdigest hsave
    intro bytes hbytes
    rw [← ((hsited.grown hgrown).grown hgrown').place, hentry] at hbytes
    cases hbytes
  · cases hreturn

theorem deliver_describes_ok (hsited : Sited config out w)
    (hdigest : Canonical.fingerprint (.ofJson inputs) = .ok digest)
    (h : (deliver kit config inputs externals source).perform w = (.ok (), v)) :
    Describes v.disk out (some ⟨digest, externals, source⟩) := by
  have hhere : v.here = w.here :=
    ((stays_deliver kit config inputs externals source).of_perform h).here
  obtain ⟨_, _, houtput, digest', time, hdigest', hrecord⟩ := deliver_eq_ok h
  obtain rfl := Except.ok.inj (hdigest.symm.trans hdigest')
  have houtput' := (Disk.read_eq_ok_iff.1 houtput).2
  have hrecord' := (Disk.read_eq_ok_iff.1 hrecord).2
  rw [place_output, hhere, hsited.place] at houtput'
  rw [place_record, hhere, hsited.place] at hrecord'
  intro bytes hbytes
  rw [hrecord'] at hbytes
  obtain rfl := Disk.Entry.file.inj (Option.some.inj hbytes)
  exact ⟨⟨digest, externals, source⟩, time, rfl, rfl, houtput'⟩

theorem buildIn_describes (hkeeps : KeepsInside kit) {name : String} (hname : IsTemporary name)
    (hsited : Sited config out w) (hpath : (config.out.child recordName).objection? = none)
    (hdigest : Canonical.fingerprint (.ofJson inputs) = .ok digest)
    (hd : Describes w.disk out last) {made : Except Failure (List String)}
    (h : (buildIn kit config project inputs nodes ⟨0, [name]⟩).perform w = (made, v)) :
    Sited config out v ∧ match made with
      | .error _ => Describes v.disk out last
      | .ok externals => ∃ source u,
        (produce kit config project nodes ⟨0, [name]⟩).perform w = (.ok (externals, source), u) ∧
          Describes v.disk out (some ⟨digest, externals, source⟩) := by
  have hproduces : Moves (Grown Temporary Nowhere)
      (produce kit config project nodes ⟨0, [name]⟩ : Act τ σ _) :=
    grows_produce hkeeps.keepsTo hname config project nodes
  rw [buildIn, perform_bind] at h
  rcases hproduce : (produce kit config project nodes ⟨0, [name]⟩).perform w with
    ⟨e | ⟨externals, source⟩, u⟩
  · rw [hproduce] at h
    cases h
    have hgrown := hproduces.of_perform hproduce
    exact ⟨hsited.grown hgrown, hsited.describes hgrown hd⟩
  have hgrown := hproduces.of_perform hproduce
  have hd' := hsited.describes hgrown hd
  have hsited' := hsited.grown hgrown
  rw [hproduce] at h
  dsimp only at h
  rw [perform_bind] at h
  rcases hdeliver : (deliver kit config inputs externals source).perform u with ⟨e | ⟨⟩, u'⟩
  · rw [hdeliver] at h
    cases h
    exact ⟨hsited'.grown ((grows_deliver kit config inputs externals source).of_perform hdeliver),
      deliver_describes_error hsited' hpath hdigest hd' hdeliver⟩
  · rw [hdeliver] at h
    cases h
    exact ⟨hsited'.grown ((grows_deliver kit config inputs externals source).of_perform hdeliver),
      source, u, rfl, deliver_describes_ok hsited' hdigest hdeliver⟩

def Rebuilt [Depths] (kit : Kit τ) (config : Config) (project : Path) (nodes : List Export.Node)
    (digest : String) (out : Location) (last : Option Delivery) (w v : World τ σ) :
    Except Failure (List String) → Prop
  | .error _ => Describes v.disk out last
  | .ok externals => ∃ p x source y, (makeTemporary "anywhereify-").perform w = (.ok p, x) ∧
      (produce kit config project nodes p).perform x = (.ok (externals, source), y) ∧
      Describes v.disk out (some ⟨digest, externals, source⟩)

theorem rebuild_describes (hkeeps : KeepsInside kit) (hsited : Sited config out w)
    (hpath : (config.out.child recordName).objection? = none)
    (hdigest : Canonical.fingerprint (.ofJson inputs) = .ok digest)
    (hd : Describes w.disk out last) {result : Except Failure (List String)}
    (h : (rebuild kit config project inputs nodes).perform w = (result, v)) :
    Rebuilt kit config project nodes digest out last w v result := by
  have hmakes : Moves (Grown Temporary Nowhere) (makeTemporary "anywhereify-" : Act τ σ Path) :=
    Moves.grown (moves_makeTemporary hkeeps.keepsTo isTemporary_project)
  rcases hmake : (makeTemporary "anywhereify-").perform w with ⟨e | p, x⟩
  · rw [rebuild, perform_bind, hmake] at h
    cases h
    exact hsited.describes (hmakes.of_perform hmake) hd
  have hgrown := hmakes.of_perform hmake
  obtain ⟨name, hname, rfl⟩ := makeTemporary_name isTemporary_project w _ x hmake
  rw [perform_rebuild hmake, perform_ensuring] at h
  rcases hbuild : (buildIn kit config project inputs nodes ⟨0, [name]⟩).perform x with ⟨made, y⟩
  rw [hbuild] at h
  obtain ⟨rfl, rfl⟩ := Prod.mk.inj h
  have hfinish : Moves (Grown Temporary Nowhere) (finish config ⟨0, [name]⟩ : Act τ σ Unit) :=
    grows_finish hkeeps.keepsTo hname config
  obtain ⟨hsited', hmade⟩ := buildIn_describes hkeeps hname (hsited.grown hgrown) hpath hdigest
    (hsited.describes hgrown hd) hbuild
  cases made with
  | error e => exact hsited'.describes (hfinish y) hmade
  | ok externals =>
    obtain ⟨source, u, hproduce, hlast⟩ := hmade
    exact ⟨_, x, source, u, hmake, hproduce, hsited'.describes (hfinish y) hlast⟩

/-- Without a fingerprint of its inputs a delivery fails, but its output is written by then, and the
record that was there stays beside it. -/
theorem deliver_unrecorded {cause : Canonical.Error} {old old' : List UInt8}
    (hlistener : kit.listener (.writing (config.out.child outputName)) = .ok ())
    (hdigest : Canonical.fingerprint (.ofJson inputs) = .error cause)
    (hdir : w.disk.isDirectory w.here config.out = .ok true)
    (hold : w.disk.read w.here (config.out.child outputName) = .ok old)
    (hold' : w.disk.read w.here (config.out.child recordName) = .ok old') :
    ∃ v, (deliver kit config inputs externals source).perform w = (.error (.canonical cause), v) ∧
      v.disk.read v.here (config.out.child outputName) =
        .ok (Text.Utf8.encode source.toList) ∧
      v.disk.read v.here (config.out.child recordName) = .ok old' := by
  have hwrite := Disk.write_of_read hold (Text.Utf8.encode source.toList)
  have hfile : w.disk.lookup ((config.out.child outputName).place w.here) ≠ some .directory := by
    rw [(Disk.read_eq_ok_iff.1 hold).2]
    nofun
  have hannounce : (kit.announce (.writing (config.out.child outputName)) :
      Act τ σ Unit).perform w = (.ok (), { w with
        steps := w.steps ++ [.writing (config.out.child outputName)] }) :=
    announce_eq_ok_iff.2 ⟨hlistener, rfl⟩
  have hparent : w.disk.isDirectory w.here (config.out.child outputName).parent = .ok true := by
    rw [parent_output]
    exact hdir
  have hrun : (deliver kit config inputs externals source).perform w =
      (.error (.canonical cause), { w with
        disk := w.disk.put ((config.out.child outputName).place w.here)
          (.file (Text.Utf8.encode source.toList))
        steps := w.steps ++ [.writing (config.out.child outputName)] }) := by
    refine bind_eq_error_iff.2 (.inr ⟨(), _, hannounce, bind_eq_error_iff.2 (.inr
      ⟨(), _, makeDirectories_of_isDirectory hparent, bind_eq_error_iff.2 (.inr
        ⟨(), _, writeBytes_eq_ok_iff.2 ⟨_, hwrite, rfl⟩, bind_eq_error_iff.2 (.inl ?_)⟩)⟩)⟩)
    exact bind_eq_error_iff.2 (.inl (lift_eq_error_iff.2 ⟨cause, hdigest, rfl, rfl⟩))
  exact ⟨_, hrun, Disk.read_of_write hwrite,
    Disk.read_put _ hold' hfile (place_output_ne_record _ _).symm⟩

end Deliver

/-! Histories -/

/-- The record of this build can be written: nothing speaks against its path, and the inputs have a
fingerprint. -/
structure Recordable [Depths] (kit : Kit τ) (config : Config) (project : Path) (out : Location)
    (w : World τ σ) : Prop extends Sited config out w where
  keeps : KeepsInside kit
  path : (config.out.child recordName).objection? = none
  digest : ∀ inputs, InputsOn (inputsOf config project) w.disk w.here inputs →
    ∃ digest, Canonical.fingerprint (.ofJson inputs) = .ok digest

def Makes [Depths] [Identifier.Supply σ] (kit : Kit τ) (config : Config) (project : Path) (force : Bool)
    (w : World τ σ) (e : Delivery) : Prop :=
  ∃ nodes inputs u p x y,
    (search kit config project force).perform w = (.ok (nodes, inputs, none), u) ∧
    (makeTemporary "anywhereify-").perform u = (.ok p, x) ∧
    (produce kit config project nodes p).perform x = (.ok (e.externals, e.source), y) ∧
    Canonical.fingerprint (.ofJson inputs) = .ok e.digest

/-- The worlds that builds and edits lead to, from one in which the directory holds neither an output
nor a record, with the last delivery that was made. -/
inductive Reached [Depths] [Identifier.Supply σ] (out : Location) : World τ σ → Option Delivery → Prop
  | start {w : World τ σ} (h : ∀ name ∈ [outputName, recordName], ∀ bytes,
      w.disk.lookup (out ++ [name]) ≠ some (.file bytes)) : Reached out w none
  | edit {w v : World τ σ} {last : Option Delivery} (h : Reached out w last)
      (hkept : ∀ name ∈ [outputName, recordName],
        v.disk.lookup (out ++ [name]) = w.disk.lookup (out ++ [name])) : Reached out v last
  | fail {kit : Kit τ} {config : Config} {project : Path} {force : Bool} {w v : World τ σ}
      {last : Option Delivery} {e : Failure} (h : Reached out w last)
      (hrecordable : Recordable kit config project out w)
      (hrun : (build kit config project force).perform w = (.error e, v)) : Reached out v last
  | served {kit : Kit τ} {config : Config} {project : Path} {force : Bool} {w v : World τ σ}
      {last : Option Delivery} {r : Result} (h : Reached out w last)
      (hrecordable : Recordable kit config project out w)
      (hrun : (build kit config project force).perform w = (.ok r, v))
      (hcached : r.cached = true) : Reached out v last
  | renew {kit : Kit τ} {config : Config} {project : Path} {force : Bool} {w v : World τ σ}
      {last : Option Delivery} {r : Result} {e : Delivery} (h : Reached out w last)
      (hrecordable : Recordable kit config project out w)
      (hrun : (build kit config project force).perform w = (.ok r, v)) (hnew : r.cached = false)
      (hmakes : Makes kit config project force w e) : Reached out v (some e)

section Histories

variable [Identifier.Supply σ] {kit : Kit τ} {config : Config} {project : Path} {force : Bool}
  {out : Location} {w v : World τ σ} {last : Option Delivery} {r : Result}

theorem Makes.eq {e e' : Delivery} (h : Makes kit config project force w e)
    (h' : Makes kit config project force w e') : e = e' := by
  obtain ⟨nodes, inputs, u, p, x, y, hsearch, hmake, hproduce, hdigest⟩ := h
  obtain ⟨nodes', inputs', u', p', x', y', hsearch', hmake', hproduce', hdigest'⟩ := h'
  cases hsearch.symm.trans hsearch'
  cases hmake.symm.trans hmake'
  obtain ⟨digest, externals, source⟩ := e
  obtain ⟨digest', externals', source'⟩ := e'
  cases hproduce.symm.trans hproduce'
  cases hdigest.symm.trans hdigest'
  rfl

/-- What a build leaves, by the way it ends: one that fails leaves what was described, one that is
served has the externals of the last delivery, and a new one makes a delivery that is described. -/
def Outcome [Depths] (kit : Kit τ) (config : Config) (project : Path) (force : Bool) (out : Location)
    (last : Option Delivery) (w v : World τ σ) : Except Failure Result → Prop
  | .error _ => Describes v.disk out last
  | .ok r =>
    if r.cached then v.disk = w.disk ∧ ∃ e, last = some e ∧ r.externals = e.externals.map .str
    else ∃ e, Makes kit config project force w e ∧ r.externals = e.externals.map .str ∧
      Describes v.disk out (some e)

theorem found_describes {d : Disk} {here : Location} {inputs : Value} {known : Record}
    (h : Found d here config.out inputs known) (hplace : config.out.place here = out)
    (hd : Describes d out last) : ∃ e, last = some e ∧ known.externals = e.externals.map .str := by
  obtain ⟨bytes, doc, hread, hdoc, hr⟩ := h.record
  have hfile := (Disk.read_eq_ok_iff.1 hread).2
  rw [place_record, hplace] at hfile
  obtain ⟨e, time, hlast, hnoted, _⟩ := hd bytes hfile
  rw [hnoted] at hdoc
  obtain rfl := Record.eq_noted hdoc hr
  exact ⟨e, hlast, rfl⟩

theorem build_describes (hrecordable : Recordable kit config project out w)
    (hd : Describes w.disk out last) {result : Except Failure Result}
    (h : (build kit config project force).perform w = (result, v)) :
    Outcome kit config project force out last w v result := by
  have hsearches := moves_search (σ := σ) kit config project force
  rw [build_eq_bind, perform_bind] at h
  rcases hsearch : (search kit config project force).perform w with ⟨e | ⟨nodes, inputs, record⟩, u⟩
  · rw [hsearch] at h
    cases h
    have hagrees := hsearches.of_perform hsearch
    change Describes v.disk out last
    rwa [hagrees.disk]
  have hagrees := hsearches.of_perform hsearch
  rw [hsearch] at h
  dsimp only at h
  obtain ⟨u₀, hprepared, hknown⟩ := search_eq_ok hsearch
  -- The search writes nothing, so only a build that found no record can change the directory.
  cases record with
  | some known =>
    rw [perform_conclude_some] at h
    obtain ⟨rfl, rfl⟩ := Prod.mk.inj h
    cases kit.listener .upToDate with
    | error e =>
      change Describes u.disk out last
      rwa [hagrees.disk]
    | ok a =>
      exact ⟨hagrees.disk, found_describes (hprepared.found hknown) hrecordable.place hd⟩
  | none =>
    obtain ⟨digest, hdigest⟩ := hrecordable.digest inputs hprepared.inputs
    have hsited : Sited config out u :=
      hrecordable.toSited.grown (grown_of_changedIn hagrees.changedIn : Grown Temporary Nowhere w u)
    rw [← hagrees.disk] at hd
    rw [perform_conclude_none] at h
    obtain ⟨rfl, rfl⟩ := Prod.mk.inj h
    rcases hrebuild : (rebuild kit config project inputs nodes).perform u with ⟨e | externals, y⟩
    · exact rebuild_describes hrecordable.keeps hsited hrecordable.path hdigest hd hrebuild
    · obtain ⟨p, x, source, u', hmake, hproduce, hlast⟩ :=
        rebuild_describes hrecordable.keeps hsited hrecordable.path hdigest hd hrebuild
      exact ⟨⟨digest, externals, source⟩,
        ⟨nodes, inputs, u, p, x, u', hsearch, hmake, hproduce, hdigest⟩, rfl, hlast⟩

/-- After any history of builds whose records can be written, a record that is there is that of the
last delivery, and so is the output. -/
theorem record_describes_output (h : Reached out w last) : Describes w.disk out last := by
  induction h with
  | start h =>
    intro bytes hbytes
    exact absurd hbytes (h recordName (by simp) bytes)
  | edit _ hkept ih =>
    exact ih.filled (.inl (hkept recordName (by simp))) (.inl (hkept outputName (by simp)))
  | fail _ hrecordable hrun ih => exact build_describes hrecordable ih hrun
  | served _ hrecordable hrun hcached ih =>
    have hstep := build_describes hrecordable ih hrun
    rw [Outcome, if_pos hcached] at hstep
    rw [hstep.1]
    exact ih
  | renew _ hrecordable hrun hnew hmakes ih =>
    have hstep := build_describes hrecordable ih hrun
    rw [Outcome, if_neg (by simp [hnew])] at hstep
    obtain ⟨e', hmakes', _, hlast⟩ := hstep
    rwa [hmakes.eq hmakes']

/-- After such a history a build that is served from a record has the externals of the last delivery,
and changes no file. -/
theorem cached_build_of_reached (h : Reached out w last)
    (hrecordable : Recordable kit config project out w)
    (hrun : (build kit config project force).perform w = (.ok r, v)) (hcached : r.cached = true) :
    v.disk = w.disk ∧ ∃ e, last = some e ∧ r.externals = e.externals.map .str := by
  have hstep := build_describes hrecordable (record_describes_output h) hrun
  rwa [Outcome, if_pos hcached] at hstep

end Histories

end ExportBundle.Build
