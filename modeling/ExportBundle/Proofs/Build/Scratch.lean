import ExportBundle.Proofs.Build.Frame

/-! The temporary directories of a build. A new one is made where the program runs, and removing it
leaves nothing at its place or below. What a build makes changes the project's temporary directory
only; the minifier has one of its own, and that is gone when the minifier is done, unless the build
fails in a way that nobody foresaw. -/

namespace ExportBundle

/-- The failures that a build announces: a specification that is not valid, a tool that did not do
its work, and a file that is not there. -/
inductive Failure.Foreseen : Failure → Prop
  | spec (e : Export.SpecError) : Foreseen (.spec e)
  | tool (e : ToolError) : Foreseen (.tool e)
  | noManifest (directory : Path) : Foreseen (.noManifest directory)
  | noConfig (start : Path) : Foreseen (.noConfig start)
  | configNotFound (path : Path) : Foreseen (.configNotFound path)
  | missing (path : Path) : Foreseen (.disk ⟨.missing, path⟩)

theorem Failure.Foreseen.cause {f : Disk.Fault} (h : Foreseen (.disk f)) : f.cause = .missing := by
  cases h
  rfl

variable {depths : Depths} {τ σ α β : Type}

namespace Act

/-- Unless the action fails in a way that is not foreseen, the world after it stands in this
relation to the one before. -/
def Settles (rel : World τ σ → World τ σ → Prop) (act : Act τ σ α) : Prop :=
  ∀ w, (∀ e, (act.perform w).1 = .error e → e.Foreseen) → rel w (act.perform w).2

/-- Changes of the first kind, and perhaps one of the second kind at the end. -/
def Then (first last : World τ σ → World τ σ → Prop) (w v : World τ σ) : Prop :=
  first w v ∨ ∃ u, first w u ∧ last u v

section Settles

variable {first last : World τ σ → World τ σ → Prop} [IsPreorder _ first]
  {act : Act τ σ α} {f : α → Act τ σ β}

theorem Then.of_first {w v u : World τ σ} (h : first w v) (h' : Then first last v u) :
    Then first last w u := by
  rcases h' with h' | ⟨x, h', hlast⟩
  · exact .inl (IsTrans.trans _ _ _ h h')
  · exact .inr ⟨x, IsTrans.trans _ _ _ h h', hlast⟩

omit [IsPreorder _ first] in
theorem Moves.settles (h : Moves first act) : Settles (Then first last) act :=
  fun w _ => .inl (h w)

theorem Moves.bind_settles_of_result (h : Moves first act) {can : α → Prop}
    (hcan : ∀ w a v, act.perform w = (.ok a, v) → can a)
    (hf : ∀ a, can a → Settles (Then first last) (f a)) :
    Settles (Then first last) (act >>= f) := by
  intro w hforeseen
  have hact := h w
  rw [perform_bind] at hforeseen ⊢
  rcases hp : act.perform w with ⟨e | a, v⟩
  · rw [hp] at hact
    exact .inl hact
  · rw [hp] at hact hforeseen
    exact Then.of_first hact (hf a (hcan w a v hp) v hforeseen)

theorem Moves.bind_settles (h : Moves first act) (hf : ∀ a, Settles (Then first last) (f a)) :
    Settles (Then first last) (act >>= f) :=
  h.bind_settles_of_result (fun _ _ _ _ => trivial) fun a _ => hf a

omit [IsPreorder _ first] in
theorem Settles.bind_pure {rel : World τ σ → World τ σ → Prop} (h : Settles rel act)
    (g : α → β) : Settles rel (act >>= fun a => pure (g a)) := by
  intro w hforeseen
  rw [perform_bind] at hforeseen ⊢
  have hact := h w
  rcases hp : act.perform w with ⟨e | a, v⟩
  · rw [hp] at hact hforeseen
    exact hact fun e' he => hforeseen e' (congrArg Except.error (Except.error.inj he))
  · rw [hp] at hact
    exact hact nofun

end Settles

end Act

namespace Build

open Act

/-! Making and removing -/

theorem isTemporary_project (count : Nat) : IsTemporary (projectName count) := ⟨count, .inl rfl⟩

theorem isTemporary_minify (count : Nat) : IsTemporary (minifyName count) := ⟨count, .inr rfl⟩

theorem Inside.eq {name other : String} {here l : Location} (h : Inside name here l)
    (h' : Inside other here l) : name = other := by
  have hsame : here ++ [name] = here ++ [other] := by
    refine (List.prefix_of_prefix_length_le h h' ?_).eq_of_length ?_ <;> simp
  simpa using hsame

theorem projectName_ne_minifyName (m n : Nat) : projectName m ≠ minifyName n := by
  intro h
  have hstem : "anywhereify-minify-".toList = "anywhereify-".toList ++ "minify-".toList := by
    decide +kernel
  have hlist : ("anywhereify-" ++ Text.decimal m).toList =
      ("anywhereify-minify-" ++ Text.decimal n).toList := congrArg String.toList h
  rw [String.toList_append, String.toList_append, hstem, List.append_assoc,
    List.append_cancel_left_eq] at hlist
  have hm : 'm' ∈ (Text.decimal m).toList := by
    rw [hlist, List.mem_append]
    exact .inl (by decide)
  rw [Text.decimal, String.toList_ofList] at hm
  exact absurd (Nat.isDigit_of_mem_toDigits (by decide) (by decide) hm) (by decide)

section Temporaries

variable {stem name : String} {w v : World τ σ}

/-- A new directory of this name has been made where the program runs. -/
structure Reserved (name : String) (w v : World τ σ) : Prop where
  world : v = { w with temporaries := v.temporaries, disk := v.disk }
  standing : w.disk.lookup w.here = some .directory
  new : w.disk.lookup (w.here ++ [name]) = none
  there : v.disk.isDirectory w.here ⟨0, [name]⟩ = .ok true
  kept : ∀ l, ¬ Inside name w.here l → v.disk.lookup l = w.disk.lookup l

def Reserves (stem : String) (w : World τ σ) : Except Failure Path × World τ σ → Prop
  | (.ok p, v) => ∃ count, p = ⟨0, [stem ++ Text.decimal count]⟩ ∧
    Reserved (stem ++ Text.decimal count) w v
  | (.error e, v) => v = { w with temporaries := v.temporaries } ∧
    (w.disk.lookup w.here = some .directory → ¬ e.Foreseen)

theorem Reserves.of_later {result : Except Failure Path × World τ σ} {count : Nat}
    (h : Reserves stem { w with temporaries := count } result) : Reserves stem w result := by
  obtain ⟨e | p, v⟩ := result
  · exact h
  · obtain ⟨c, hp, hreserved⟩ := h
    exact ⟨c, hp, hreserved.world, hreserved.standing, hreserved.new, hreserved.there,
      hreserved.kept⟩

theorem Reserved.of_makeDirectory {disk : Disk} {count : Nat} (hname : IsTemporary name)
    (h : w.disk.makeDirectory w.here ⟨0, [name]⟩ = .ok disk) :
    Reserved name w { w with temporaries := count, disk := disk } := by
  have hdir := Disk.isDirectory_of_acceptDirectory (Disk.acceptDirectory_eq_ok_iff.2 (.inl h))
  obtain ⟨-, hnew, hstanding, rfl⟩ := Disk.makeDirectory_eq_ok_iff.1 h
  rw [hname.place] at hnew hstanding hdir ⊢
  rw [List.dropLast_concat] at hstanding
  exact ⟨rfl, hstanding, hnew, hdir, fun l hl => lookup_put_outside w.disk .directory [] hl⟩

theorem makeDirectory_cause_ne {d : Disk} {here : Location} {f : Disk.Fault}
    (hname : IsTemporary name) (hstanding : d.lookup here = some .directory)
    (h : d.makeDirectory here ⟨0, [name]⟩ = .error f) : f.cause ≠ .missing := by
  refine Disk.Reaches.makeDirectory_cause_ne ⟨fun m hm => ?_, fun _ => ?_⟩ h
  · rw [List.mem_singleton.1 hm]
    exact hstanding
  · rw [hname.place, List.dropLast_concat]
    exact hstanding

/-- Names that are taken are passed over; whatever else goes wrong ends the search. -/
theorem reserves_makeTemporaryWithin (h : ∀ count, IsTemporary (stem ++ Text.decimal count))
    (tries : Nat) (w : World τ σ) :
    Reserves stem w ((makeTemporaryWithin tries stem).perform w) := by
  induction tries generalizing w with
  | zero => exact ⟨rfl, fun _ => nofun⟩
  | succ tries ih =>
    have hname := h (w.temporaries + 1)
    rw [makeTemporaryWithin, perform_bind, perform_get]
    dsimp only
    rw [perform_bind, perform_set]
    dsimp only
    rw [ofString_temporary hname, perform_bind, perform_attempt, perform_change]
    dsimp only
    cases hmake : w.disk.makeDirectory w.here ⟨0, [stem ++ Text.decimal (w.temporaries + 1)]⟩ with
    | ok disk => exact ⟨_, rfl, .of_makeDirectory hname hmake⟩
    | error f =>
      obtain ⟨cause, path⟩ := f
      cases cause with
      | alreadyThere => exact (ih _).of_later
      | missing =>
        exact ⟨rfl, fun hstanding => absurd rfl (makeDirectory_cause_ne hname hstanding hmake)⟩
      | _ => exact ⟨rfl, fun _ => nofun⟩

theorem reserves_makeTemporary (h : ∀ count, IsTemporary (stem ++ Text.decimal count))
    (w : World τ σ) : Reserves stem w ((makeTemporary stem).perform w) :=
  reserves_makeTemporaryWithin h temporaryTries w

theorem makeTemporary_eq_ok {p : Path} (h : ∀ count, IsTemporary (stem ++ Text.decimal count))
    (hmake : (makeTemporary stem).perform w = (.ok p, v)) :
    ∃ count name, name = stem ++ Text.decimal count ∧ p = ⟨0, [name]⟩ ∧ Reserved name w v := by
  have hreserves := reserves_makeTemporary h w
  rw [hmake] at hreserves
  obtain ⟨count, hp, hreserved⟩ := hreserves
  exact ⟨count, _, rfl, hp, hreserved⟩

theorem makeTemporary_eq_error {e : Failure}
    (h : ∀ count, IsTemporary (stem ++ Text.decimal count))
    (hmake : (makeTemporary stem).perform w = (.error e, v)) :
    v = { w with temporaries := v.temporaries } ∧
      (w.disk.lookup w.here = some .directory → ¬ e.Foreseen) := by
  have hreserves := reserves_makeTemporary h w
  rwa [hmake] at hreserves

theorem Reserved.here (h : Reserved name w v) : v.here = w.here := by rw [h.world]

theorem Reserved.grounded (h : Reserved name w v) (hground : w.disk.Grounded w.here) :
    v.disk.Grounded v.here := by
  intro l hl
  rw [h.here] at hl
  rw [h.kept l (not_inside_of_above name hl), hground l hl]

theorem leads_temporary {u : World τ σ} (hmade : v.disk.isDirectory v.here ⟨0, [name]⟩ = .ok true)
    (hhere : u.here = v.here) (hstanding : u.disk.lookup u.here = some .directory) :
    u.disk.Leads u.here ⟨0, [name]⟩ := by
  obtain ⟨hleads, _⟩ := Disk.isDirectory_eq_true_iff.1 hmade
  rw [hhere] at hstanding ⊢
  refine hleads.transfer fun m hm _ => ?_
  rw [List.mem_singleton.1 hm]
  exact hstanding

theorem lookup_remove_inside (hname : IsTemporary name) {d : Disk} {here l : Location}
    (hleads : d.Leads here ⟨0, [name]⟩) (hl : Inside name here l) :
    (d.remove here ⟨0, [name]⟩).lookup l = none := by
  rw [Disk.Leads, hname.place] at hleads
  rw [Disk.remove, hleads]
  exact Disk.lookup_erase_of_prefix d hl (by simp)

theorem grounded_of_changedIn (h : World.ChangedIn (Inside name) w v)
    (hground : w.disk.Grounded w.here) : v.disk.Grounded v.here := by
  intro l hl
  rw [h.here] at hl
  rw [h.kept hground.standing l (.inr (not_inside_of_above name hl)), hground l hl]

theorem Reserved.changedIn (h : Reserved name w v) : World.ChangedIn (Inside name) w v := by
  refine ⟨h.here, fun _ l hl => h.kept l ?_⟩
  rcases hl with rfl | hl
  · exact not_inside_here name w.here
  · exact hl

theorem makeTemporary_name (h : ∀ count, IsTemporary (stem ++ Text.decimal count))
    (w : World τ σ) (p : Path) (v : World τ σ)
    (hmake : (makeTemporary stem).perform w = (.ok p, v)) :
    ∃ name, IsTemporary name ∧ p = ⟨0, [name]⟩ := by
  obtain ⟨count, name, rfl, hp, -⟩ := makeTemporary_eq_ok h hmake
  exact ⟨_, h count, hp⟩

end Temporaries

def finish (config : Config) (directory : Path) : Act τ σ Unit :=
  if config.keepTemp then pure () else remove directory

theorem moves_finish (config : Config) {name : String} (hname : IsTemporary name) :
    Moves (World.ChangedIn (Inside name)) (finish config ⟨0, [name]⟩ : Act τ σ Unit) := by
  unfold finish
  split
  · exact moves_pure _
  · exact moves_remove_inside hname

/-! Work in temporary directories, with tools that keep to a region -/

section Region

variable {kit : Kit τ} {region : Location → Location → Prop} (hkeeps : KeepsTo kit region)

include hkeeps

theorem moves_makeTemporary {stem : String}
    (h : ∀ count, IsTemporary (stem ++ Text.decimal count)) :
    Moves (World.ChangedIn region) (makeTemporary stem : Act τ σ Path) := by
  intro w
  rcases hmake : (makeTemporary stem).perform w with ⟨e | p, v⟩
  · rw [(makeTemporary_eq_error h hmake).1]
    exact ⟨rfl, fun _ _ _ => rfl⟩
  · obtain ⟨count, name, rfl, -, hreserved⟩ := makeTemporary_eq_ok h hmake
    exact hreserved.changedIn.mono (hkeeps _ (h count)).inside

theorem moves_minify (source : String) :
    Moves (World.ChangedIn region) (kit.minifier.minify kit.tools source : Act τ σ String) := by
  refine (moves_makeTemporary hkeeps isTemporary_minify).bind_of_result
    (makeTemporary_name isTemporary_minify) ?_
  rintro _ ⟨name, hname, rfl⟩
  have hworks := hkeeps name hname
  exact (moves_minifyIn hworks source).ensuring (hworks.widen (moves_remove_inside hname))

theorem moves_reduced (config : Config) (source : String) :
    Moves (World.ChangedIn region) (reduced kit config source : Act τ σ String) := by
  unfold reduced
  split
  · exact (moves_announce kit _).changedIn.bind fun _ => moves_minify hkeeps source
  · exact moves_pure _

theorem moves_produce {name : String} (hname : IsTemporary name) (config : Config)
    (project : Path) (nodes : List Export.Node) :
    Moves (World.ChangedIn region) (produce kit config project nodes ⟨0, [name]⟩ : Act τ σ _) := by
  have hworks := hkeeps name hname
  rw [produce_eq_bind]
  refine (moves_furnish hworks project nodes).bind_of_result (fun _ _ _ => furnish_eq_ok) ?_
  rintro _ rfl
  refine (moves_resolveExternals hworks _).bind fun externals => ?_
  refine (moves_bundled hworks nodes externals).bind fun source => ?_
  exact (moves_reduced hkeeps config source).bind fun _ => moves_pure _

end Region

/-! What is left of that work when a build fails -/

/-- The minifier has worked in a new directory of this name that is gone again. -/
structure Minified (other : String) (w v : World τ σ) : Prop where
  named : ∃ count, other = minifyName count
  here : v.here = w.here
  new : w.disk.lookup w.here = some .directory → w.disk.lookup (w.here ++ [other]) = none
  kept : w.disk.lookup w.here = some .directory → ∀ l, l = w.here ∨ ¬ Inside other w.here l →
    v.disk.lookup l = w.disk.lookup l
  gone : w.disk.Grounded w.here → ∀ l, Inside other w.here l → v.disk.lookup l = none

abbrev Produced (name : String) : World τ σ → World τ σ → Prop :=
  Then (World.ChangedIn (Inside name)) fun w v => ∃ other, Minified other w v

section Produced

variable {name other : String} {w v u : World τ σ}

theorem Minified.grounded (h : Minified other w v) (hground : w.disk.Grounded w.here) :
    v.disk.Grounded v.here := by
  intro l hl
  rw [h.here] at hl
  rw [h.kept hground.standing l (.inr (not_inside_of_above _ hl)), hground l hl]

theorem Produced.grounded (h : Produced name w v) (hground : w.disk.Grounded w.here) :
    v.disk.Grounded v.here := by
  rcases h with h | ⟨x, h, _, hlast⟩
  · exact grounded_of_changedIn h hground
  · exact hlast.grounded (grounded_of_changedIn h hground)

theorem Minified.agrees (h : Minified other w v) (h' : World.Agrees v u) : Minified other w u :=
  ⟨h.named, h'.here.trans h.here, h.new, by rw [h'.disk]; exact h.kept,
    by rw [h'.disk]; exact h.gone⟩

theorem Produced.agrees (h : Produced name w v) (h' : World.Agrees v u) : Produced name w u := by
  rcases h with h | ⟨x, h, other, hlast⟩
  · exact .inl (IsTrans.trans _ _ _ h h'.changedIn)
  · exact .inr ⟨x, h, other, hlast.agrees h'⟩

theorem Produced.here (h : Produced name w v) : v.here = w.here := by
  rcases h with h | ⟨x, h, _, hlast⟩
  · exact h.here
  · exact hlast.here.trans h.here

end Produced

section Produce

variable {kit : Kit τ} {name : String}

theorem settles_minify (hkeeps : KeepsInside kit) (source : String) :
    Settles (fun w v => ∃ other, Minified other w v)
      (kit.minifier.minify kit.tools source : Act τ σ String) := by
  intro w hforeseen
  rw [Minifier.minify, perform_bind] at hforeseen ⊢
  rcases hmake : (makeTemporary "anywhereify-minify-").perform w with ⟨e | p, x⟩
  · rw [hmake] at hforeseen
    obtain ⟨hx, hrefused⟩ := makeTemporary_eq_error isTemporary_minify hmake
    -- Where there is a directory to work in, a new one is never refused for a foreseen reason.
    have hfail (hstanding : w.disk.lookup w.here = some .directory) : False :=
      hrefused hstanding (hforeseen e rfl)
    dsimp only
    rw [hx]
    exact ⟨minifyName 0, ⟨0, rfl⟩, rfl, fun hstanding => (hfail hstanding).elim, fun _ _ _ => rfl,
      fun hground => (hfail hground.standing).elim⟩
  · obtain ⟨count, name, hcount, rfl, hreserved⟩ := makeTemporary_eq_ok isTemporary_minify hmake
    have hname : IsTemporary name := hcount ▸ isTemporary_minify count
    have hworked := moves_minifyIn (σ := σ) (hkeeps.works hname) source x
    have hremoved := moves_remove_inside (τ := τ) hname
      ((kit.minifier.minifyIn kit.tools source ⟨0, [name]⟩).perform x).2
    have hend := IsTrans.trans _ _ _ hworked hremoved
    have hhere := hreserved.here
    dsimp only
    rw [perform_ensuring]
    refine ⟨name, ⟨count, hcount⟩, hend.here.trans hhere, fun _ => hreserved.new,
      fun hstanding l hl => ?_, fun hground l hl => ?_⟩
    · have hout : ¬ Inside name w.here l := by
        rcases hl with rfl | hl
        · exact not_inside_here _ _
        · exact hl
      have hstill : x.disk.lookup x.here = some .directory := by
        rw [hhere, hreserved.kept _ (not_inside_here _ _), hstanding]
      exact (hend.kept hstill l (.inr (hhere ▸ hout))).trans (hreserved.kept l hout)
    · rw [perform_remove]
      refine lookup_remove_inside hname (leads_temporary (v := x) ?_ hworked.here ?_) ?_
      · rw [hhere]
        exact hreserved.there
      · exact (grounded_of_changedIn hworked (hreserved.grounded hground)).standing
      · rw [hworked.here, hhere]
        exact hl

theorem settles_produce [Depths] (hkeeps : KeepsInside kit) (hname : IsTemporary name)
    (config : Config) (project : Path) (nodes : List Export.Node) :
    Settles (Produced name) (produce kit config project nodes ⟨0, [name]⟩ : Act τ σ _) := by
  have hworks := hkeeps.works hname
  rw [produce_eq_bind]
  refine (moves_furnish hworks project nodes).bind_settles_of_result
    (fun _ _ _ => furnish_eq_ok) ?_
  rintro _ rfl
  refine (moves_resolveExternals hworks _).bind_settles fun externals => ?_
  refine (moves_bundled hworks nodes externals).bind_settles fun source => ?_
  refine Settles.bind_pure ?_ _
  unfold reduced
  split
  · refine (moves_announce kit _).changedIn.bind_settles fun _ => ?_
    exact fun w hforeseen => .inr ⟨w, Std.Refl.refl w, settles_minify hkeeps source w hforeseen⟩
  · exact (moves_pure _).settles

end Produce

end Build

end ExportBundle
