import ExportBundle.Identifier.Counter
import ExportBundle.Proofs.Build.Record
import ExportBundle.Proofs.Build.Scratch
import ExportBundle.Proofs.Tool.Rehearsal

/-! Builds that fail. The output and the record are the last to be written, and once the output can
be written nothing is missing for the record. Main statement: a build that fails in a way that is
foreseen leaves the disk as it was, apart from a temporary project that is to be kept. -/

namespace ExportBundle.Build

open Act

variable {depths : Depths} {τ σ : Type}

/-- Nothing outside the temporary directories of these names has changed. They were new, and they are
gone; the project's stays only if it is to be kept. -/
structure NoTrace (config : Config) (made : List String) (w v : World τ σ) : Prop where
  here : v.here = w.here
  new : ∀ name ∈ made, IsTemporary name ∧ w.disk.lookup (w.here ++ [name]) = none
  kept : ∀ l, (∀ name ∈ made, ¬ Inside name w.here l) → v.disk.lookup l = w.disk.lookup l
  gone : ∀ name ∈ made, (config.keepTemp = true → ∃ count, name = minifyName count) →
    ∀ l, Inside name w.here l → v.disk.lookup l = none

section Worlds

variable {config : Config} {made : List String} {w v u : World τ σ}

theorem NoTrace.of_agrees (h : World.Agrees w v) : NoTrace config [] w v :=
  ⟨h.here, nofun, fun l _ => by rw [h.disk], nofun⟩

theorem NoTrace.agrees_trans (h : World.Agrees w u) (h' : NoTrace config made u v) :
    NoTrace config made w v := by
  obtain ⟨hhere, hnew, hkept, hgone⟩ := h'
  rw [h.disk, h.here] at hnew
  rw [h.disk, h.here] at hkept
  rw [h.here] at hhere hgone
  exact ⟨hhere, hnew, hkept, hgone⟩

theorem NoTrace.free (h : NoTrace config made w v) (hkeep : config.keepTemp = false) {name : String}
    (hfree : w.disk.lookup (w.here ++ [name]) = none) : v.disk.lookup (w.here ++ [name]) = none := by
  by_cases hmade : name ∈ made
  · exact h.gone name hmade (fun hk => absurd (hkeep.symm.trans hk) (by decide)) _ List.prefix_rfl
  · rw [h.kept _ fun other hother hin => ?_, hfree]
    rw [hin.eq List.prefix_rfl] at hother
    exact hmade hother

end Worlds

section Failing

variable {kit : Kit τ} {config : Config} {project : Path} {inputs : Json.Value}
  {nodes : List Export.Node} {w v : World τ σ} {e : Failure}

theorem saveRecord_eq_error {out : Path} {externals : List String}
    (hground : w.disk.Grounded w.here)
    (h : (saveRecord out inputs externals).perform w = (.error e, v)) : ¬ e.Foreseen := by
  rcases saveRecord_fails h with ⟨_, _, rfl, _⟩ | hmake | ⟨_, hmake, hwrite⟩
  · nofun
  · obtain ⟨f, rfl, hcause⟩ := makeDirectories_eq_error hground hmake
    exact fun hf => hcause hf.cause
  · have hstays := stays_makeDirectories out w
    rw [hmake] at hstays
    have hdir : v.disk.isDirectory v.here (out.child recordName).parent = .ok true := by
      rw [parent_record, hstays.here]
      exact (makeDirectories_eq_ok hmake).2
    obtain ⟨f, rfl, hcause⟩ := writeBytes_eq_error (hstays.grounded hground) hdir hwrite
    exact fun hf => hcause hf.cause

theorem deliver_eq_error {externals : List String} {source : String}
    (hground : w.disk.Grounded w.here) (he : e.Foreseen)
    (h : (deliver kit config inputs externals source).perform w = (.error e, v)) :
    World.Agrees w v := by
  have hannounced := moves_announce (σ := σ) kit (.writing (config.out.child outputName)) w
  rcases bind_eq_error_iff.1 h with hannounce | ⟨_, u, hannounce, h₁⟩
  · rw [hannounce] at hannounced
    exact hannounced
  rw [hannounce] at hannounced
  rw [parent_output] at h₁
  have hground₁ := hannounced.stays.grounded hground
  rcases bind_eq_error_iff.1 h₁ with hmake | ⟨_, u', hmake, h₂⟩
  · obtain ⟨f, rfl, hcause⟩ := makeDirectories_eq_error hground₁ hmake
    exact absurd he.cause hcause
  have hstays := stays_makeDirectories config.out u
  rw [hmake] at hstays
  have hground₂ := hstays.grounded hground₁
  have hdir : u'.disk.isDirectory u'.here (config.out.child outputName).parent = .ok true := by
    rw [parent_output, hstays.here]
    exact (makeDirectories_eq_ok hmake).2
  rcases bind_eq_error_iff.1 h₂ with hwrite | ⟨_, u'', hwrite, h₃⟩
  · obtain ⟨f, rfl, hcause⟩ := writeBytes_eq_error hground₂ hdir hwrite
    exact absurd he.cause hcause
  have hstays := stays_writeBytes (config.out.child outputName)
    (Text.Utf8.encode source.toList) u'
  rw [Act.writeText] at hwrite
  rw [hwrite] at hstays
  rcases bind_eq_error_iff.1 h₃ with hsave | ⟨_, _, _, hreturn⟩
  · exact absurd he (saveRecord_eq_error (hstays.grounded hground₂) hsave)
  · cases hreturn

theorem buildIn_eq_error (hkeeps : KeepsInside kit) {name : String} (hname : IsTemporary name)
    (hground : w.disk.Grounded w.here) (he : e.Foreseen)
    (h : (buildIn kit config project inputs nodes ⟨0, [name]⟩).perform w = (.error e, v)) :
    Produced name w v := by
  have hsettles := settles_produce (σ := σ) hkeeps hname config project nodes w
  rcases bind_eq_error_iff.1 h with hproduce | ⟨⟨externals, source⟩, u, hproduce, hrest⟩
  · rw [hproduce] at hsettles
    refine hsettles fun e' he' => ?_
    obtain rfl := Except.error.inj he'
    exact he
  · rw [hproduce] at hsettles
    have hproduced : Produced name w u := hsettles nofun
    rcases bind_eq_error_iff.1 hrest with hdeliver | ⟨_, _, _, hreturn⟩
    · exact hproduced.agrees (deliver_eq_error (hproduced.grounded hground) he hdeliver)
    · cases hreturn

section Finish

variable {name : String} {u x : World τ σ} (hground : w.disk.Grounded w.here)
  (hname : ∃ count, name = projectName count) (hreserved : Reserved name w u)
  (hfinish : ((finish config ⟨0, [name]⟩).perform x).2 = v)

include hground hname hreserved hfinish

omit hground in
theorem gone_of_finish (hhere : x.here = w.here) (hstill : x.disk.lookup x.here = some .directory)
    (hkeep : config.keepTemp = true → ∃ count, name = minifyName count) {l : Location}
    (hl : Inside name w.here l) : v.disk.lookup l = none := by
  obtain ⟨count, rfl⟩ := hname
  have hremove : ¬ config.keepTemp = true := by
    intro hk
    obtain ⟨other, hother⟩ := hkeep hk
    exact projectName_ne_minifyName _ _ hother
  have hthere : u.disk.isDirectory u.here ⟨0, [projectName count]⟩ = .ok true := by
    rw [hreserved.here]
    exact hreserved.there
  rw [finish, if_neg hremove, perform_remove] at hfinish
  subst hfinish
  refine lookup_remove_inside (isTemporary_project count) (leads_temporary hthere ?_ hstill) ?_
  · rw [hhere, hreserved.here]
  · rwa [hhere]

theorem noTrace_project (hwork : World.ChangedIn (Inside name) u x) :
    NoTrace config [name] w v := by
  have htemporary : IsTemporary name := by
    obtain ⟨count, rfl⟩ := hname
    exact isTemporary_project count
  have hend := IsTrans.trans _ _ _ hreserved.changedIn hwork
  have hhere : x.here = w.here := hend.here
  have hstill := (grounded_of_changedIn hend hground).standing
  have hfinished := moves_finish (τ := τ) config htemporary x
  rw [hfinish] at hfinished
  have hall := IsTrans.trans _ _ _ hend hfinished
  refine ⟨hall.here, fun other hother => ?_, fun l hl => ?_, fun other hother hkeep l hl => ?_⟩
  · obtain rfl := List.mem_singleton.1 hother
    exact ⟨htemporary, hreserved.new⟩
  · exact hall.kept hground.standing l (.inr (hl name List.mem_cons_self))
  · obtain rfl := List.mem_singleton.1 hother
    exact gone_of_finish hname hreserved hfinish hhere hstill hkeep hl

theorem noTrace_minifier {y : World τ σ} {other : String}
    (hwork : World.ChangedIn (Inside name) u y) (hminified : Minified other y x) :
    NoTrace config [name, other] w v := by
  have htemporary : IsTemporary name := by
    obtain ⟨count, rfl⟩ := hname
    exact isTemporary_project count
  have hne : name ≠ other := by
    obtain ⟨count, rfl⟩ := hname
    obtain ⟨count', rfl⟩ := hminified.named
    exact projectName_ne_minifyName _ _
  have hfirst := IsTrans.trans _ _ _ hreserved.changedIn hwork
  have hground' := grounded_of_changedIn hfirst hground
  have hhere' : y.here = w.here := hfirst.here
  have hhere : x.here = w.here := hminified.here.trans hhere'
  have hstill := (hminified.grounded hground').standing
  have hfinished := moves_finish (τ := τ) config htemporary x
  rw [hfinish] at hfinished
  refine ⟨hfinished.here.trans hhere, fun other' hmem => ?_, fun l hl => ?_,
    fun other' hmem hkeep l hl => ?_⟩
  · rcases List.mem_pair.1 hmem with rfl | rfl
    · exact ⟨htemporary, hreserved.new⟩
    · obtain ⟨count, hcount⟩ := hminified.named
      have hnew := hminified.new hground'.standing
      rw [hhere'] at hnew
      refine ⟨hcount ▸ isTemporary_minify count, ?_⟩
      rwa [hfirst.kept hground.standing _ (.inr fun hin => hne (hin.eq List.prefix_rfl))] at hnew
  · have hproject := hl name List.mem_cons_self
    have hminify := hl other (List.mem_cons_of_mem _ List.mem_cons_self)
    calc v.disk.lookup l
      _ = x.disk.lookup l := hfinished.kept hstill l (.inr (by rwa [hhere]))
      _ = y.disk.lookup l := hminified.kept hground'.standing l (.inr (by rwa [hhere']))
      _ = w.disk.lookup l := hfirst.kept hground.standing l (.inr hproject)
  · rcases List.mem_pair.1 hmem with rfl | rfl
    · exact gone_of_finish hname hreserved hfinish hhere hstill hkeep hl
    · have hout : ¬ Inside name x.here l := by
        rw [hhere]
        exact fun hin => hne (hin.eq hl)
      rw [hfinished.kept hstill l (.inr hout)]
      refine hminified.gone hground' l ?_
      rwa [hhere']

end Finish

theorem rebuild_eq_error (hkeeps : KeepsInside kit) (hground : w.disk.Grounded w.here)
    (he : e.Foreseen)
    (h : (rebuild kit config project inputs nodes).perform w = (.error e, v)) :
    ∃ made, NoTrace config made w v := by
  rcases bind_eq_error_iff.1 h with hmake | ⟨p, u, hmake, hrest⟩
  · obtain ⟨-, hrefused⟩ := makeTemporary_eq_error isTemporary_project hmake
    exact absurd he (hrefused hground.standing)
  obtain ⟨count, name, hcount, rfl, hreserved⟩ := makeTemporary_eq_ok isTemporary_project hmake
  have hname : IsTemporary name := hcount ▸ isTemporary_project count
  rw [perform_ensuring] at hrest
  rcases hbuild : (buildIn kit config project inputs nodes ⟨0, [name]⟩).perform u with ⟨result, x⟩
  rw [hbuild] at hrest
  obtain ⟨rfl, hlast⟩ := Prod.mk.inj hrest
  rcases buildIn_eq_error hkeeps hname (hreserved.grounded hground) he hbuild with
    hwork | ⟨y, hwork, other, hminified⟩
  · exact ⟨_, noTrace_project hground ⟨count, hcount⟩ hreserved hlast hwork⟩
  · exact ⟨_, noTrace_minifier hground ⟨count, hcount⟩ hreserved hlast hwork hminified⟩

theorem conclude_eq_error {known : Option Record}
    (h : (conclude kit config project inputs nodes known).perform w = (.error e, v)) :
    World.Agrees w v ∨ (rebuild kit config project inputs nodes).perform w = (.error e, v) := by
  cases known with
  | some record =>
    rcases (moves_announce kit .upToDate).of_bind_eq_error h with hagrees | ⟨_, _, _, hreturn⟩
    · exact .inl hagrees
    · cases hreturn
  | none =>
    rcases bind_eq_error_iff.1 h with hrebuild | ⟨_, _, _, hreturn⟩
    · exact .inr hrebuild
    · cases hreturn

theorem build_eq_error [Identifier.Supply σ] {force : Bool}
    (h : (build kit config project force).perform w = (.error e, v)) :
    World.Agrees w v ∨ ∃ inputs nodes u, World.Agrees w u ∧
      (rebuild kit config project inputs nodes).perform u = (.error e, v) := by
  rcases (moves_announce kit .compiling).of_bind_eq_error h with hw | ⟨_, u₁, hw₁, h₁⟩
  · exact .inl hw
  rcases (moves_compile config.entries).of_bind_eq_error h₁ with hw | ⟨nodes, u₂, hw₂, h₂⟩
  · exact .inl (IsTrans.trans _ _ _ hw₁ hw)
  have hinputs (i : Inputs) : Moves World.Agrees (inputDocument i : Act τ σ _) :=
    moves_inputDocument i
  rcases (hinputs _).of_bind_eq_error h₂ with hw | ⟨inputs, u₃, hw₃, h₃⟩
  · exact .inl (IsTrans.trans _ _ _ hw₁ (IsTrans.trans _ _ _ hw₂ hw))
  have hread : World.Agrees w u₃ := IsTrans.trans _ _ _ hw₁ (IsTrans.trans _ _ _ hw₂ hw₃)
  have hend {known : Option Record} {u : World τ σ} (hu : World.Agrees w u)
      (hfail : (conclude kit config project inputs nodes known).perform u = (.error e, v)) :
      World.Agrees w v ∨ ∃ inputs nodes u, World.Agrees w u ∧
        (rebuild kit config project inputs nodes).perform u = (.error e, v) := by
    rcases conclude_eq_error hfail with hv | hrebuild
    · exact .inl (IsTrans.trans _ _ _ hu hv)
    · exact .inr ⟨inputs, nodes, u, hu, hrebuild⟩
  dsimp only at h₃
  split at h₃
  · rcases bind_eq_error_iff.1 h₃ with hpure | ⟨known, _, hpure, h₄⟩
    · cases hpure
    · cases hpure
      exact hend hread h₄
  · rcases (moves_lookup moves_warnAll _ _).of_bind_eq_error h₃ with hw | ⟨known, u₄, hw₄, h₄⟩
    · exact .inl (IsTrans.trans _ _ _ hread hw)
    · exact hend (IsTrans.trans _ _ _ hread hw₄) h₄

/-- A build that fails because of its specification, a tool or a missing file leaves no trace: all
that lies outside its temporary directories is as before, and these are gone, except for a project
that is to be kept. So every path that does not lead through them reads as before, such as those of
the output and of the record. -/
theorem failed_build_leaves_no_trace [Identifier.Supply σ] {force : Bool} (hkeeps : KeepsInside kit)
    (hground : w.disk.Grounded w.here) (he : e.Foreseen)
    (h : (build kit config project force).perform w = (.error e, v)) :
    ∃ made, NoTrace config made w v ∧ ∀ p : Path,
      (∀ name ∈ made, ∀ l ∈ p.trail w.here, ¬ Inside name w.here l) →
      v.disk.read v.here p = w.disk.read w.here p := by
  have htrace : ∃ made, NoTrace config made w v := by
    rcases build_eq_error h with hagrees | ⟨inputs, nodes, u, hu, hrebuild⟩
    · exact ⟨[], .of_agrees hagrees⟩
    · obtain ⟨made, hmade⟩ := rebuild_eq_error hkeeps (hu.stays.grounded hground) he hrebuild
      exact ⟨made, .agrees_trans hu hmade⟩
  obtain ⟨made, hmade⟩ := htrace
  refine ⟨made, hmade, fun p hp => ?_⟩
  rw [hmade.here]
  exact Disk.read_congr fun l hl => hmade.kept l fun name hname => hp name hname l hl

end Failing

/-- A project that was built before, with a minifier that is out of order. -/
def outOfOrder : World Rehearsal.State Identifier.Counter where
  disk := ((Disk.empty.plant ["work", "package.json"] (.file "{}".toUTF8.toList)).plant
    ["work", "dist", outputName] (.file "old".toUTF8.toList)).plant
    ["work", "dist", recordName] (.file "{}".toUTF8.toList)
  here := ["work"]
  tools := .ofScript { Rehearsal.Script.standard with
    endings := [("babel-minify", .output ⟨1, "", "out of order"⟩)] }
  names := .fresh
  temporaries := 4
  time := ""
  commands := []
  warnings := []
  steps := []

def withMinifier : Config where
  exports := [.obj [("name", .str "web3"), ("alias", .str "Web3")]]
  out := ⟨0, ["dist"]⟩
  polyfills := []
  minify := true
  host := none
  keepTemp := false
  root := ⟨1, ["work"]⟩

def failedMinifying {α : Type} : Except Failure α → Bool
  | .error (.tool (.minify _)) => true
  | _ => false

theorem exists_of_failedMinifying {α : Type} {r : Except Failure α}
    (h : failedMinifying r = true) : ∃ cause, r = .error (.tool (.minify cause)) := by
  unfold failedMinifying at h
  split at h
  · exact ⟨_, rfl⟩
  · cases h

theorem failed_build_leaves_no_trace_minifier :
    let _ : Depths := .ofCalls 900
    ∃ cause v, (build (Kit.standard Rehearsal.tools) withMinifier ⟨0, []⟩ true).perform outOfOrder =
        (.error (.tool (.minify cause)), v) ∧
      v.temporaries = 6 ∧
      v.disk.read ["work"] ⟨0, ["dist", outputName]⟩ = .ok "old".toUTF8.toList ∧
      v.disk.lookup ["work", "anywhereify-5"] = none ∧
      v.disk.lookup ["work", "anywhereify-minify-6"] = none := by
  intro _
  have hcheck : failedMinifying ((build (Kit.standard Rehearsal.tools) withMinifier ⟨0, []⟩
        true).perform outOfOrder).1 = true ∧
      ((build (Kit.standard Rehearsal.tools) withMinifier ⟨0, []⟩ true).perform
        outOfOrder).2.temporaries = 6 := by decide +kernel
  generalize hbuild : (build (Kit.standard Rehearsal.tools) withMinifier ⟨0, []⟩ true).perform
    outOfOrder = run at hcheck
  obtain ⟨result, v⟩ := run
  obtain ⟨hfail, hcount⟩ := hcheck
  obtain ⟨cause, rfl⟩ := exists_of_failedMinifying hfail
  dsimp only at hcount
  have hground : outOfOrder.disk.Grounded outOfOrder.here := by
    have hinits : ∀ m ∈ outOfOrder.here.inits,
        outOfOrder.disk.lookup m = some .directory := by decide +kernel
    exact fun m hm => hinits m ((List.mem_inits m _).2 hm)
  obtain ⟨made, htrace, hreads⟩ := failed_build_leaves_no_trace keepsInside_rehearsal hground
    (.tool _) hbuild
  have hhere : v.here = ["work"] := htrace.here
  refine ⟨cause, v, rfl, hcount, ?_, ?_, ?_⟩
  · have hold : outOfOrder.disk.read ["work"] ⟨0, ["dist", outputName]⟩ =
        .ok "old".toUTF8.toList := by decide +kernel
    have hread := hreads ⟨0, ["dist", outputName]⟩ fun name hname l hl hin => ?_
    · rw [hhere] at hread
      exact hread.trans hold
    have htemporary := (htrace.new name hname).1
    have hdist : ["work"] ++ ["dist"] <+: l := by
      have htrail : ∀ l ∈ Path.trail ["work"] ⟨0, ["dist", outputName]⟩,
          l = ["work"] ∨ ["work"] ++ ["dist"] <+: l := by decide +kernel
      rcases htrail l hl with rfl | hl
      · exact absurd hin (not_inside_here name _)
      · exact hl
    exact htemporary.ne_of_char (s := "dist") (c := 'd') (by decide) (by decide) (by decide)
      (hin.eq hdist)
  · have hfree : outOfOrder.disk.lookup ["work", "anywhereify-5"] = none := by decide +kernel
    exact htrace.free rfl hfree
  · have hfree : outOfOrder.disk.lookup ["work", "anywhereify-minify-6"] = none := by
      decide +kernel
    exact htrace.free rfl hfree

end ExportBundle.Build
