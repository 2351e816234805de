import ExportBundle.Proofs.Disk
import ExportBundle.World
import Mathlib.Order.Defs.Unbundled

/-! What an action does to the world. Each basic action has its equation. Two ways of speaking about
longer ones are built on them: `Moves`, for a relation between the world before and the world after
whatever comes of the action, and `Follows`, for a second action that succeeds, from a related
world, whenever a first one does. -/

namespace ExportBundle

variable {depths : Depths}

def documentOf [Depths] (bytes : List UInt8) : Except Failure Json.Value :=
  match Text.Utf8.decode bytes with
  | .error m => .error (.encoding m)
  | .ok cs => (Json.load (Text.Utf8.unifyLineEnds cs)).mapError .document

def Disk.document? [Depths] (d : Disk) (here : Location) (p : Path) :
    Except Failure (Option Json.Value) :=
  match d.isFile here p with
  | .error f => .error (.disk f)
  | .ok false => .ok none
  | .ok true =>
    match d.read here p with
    | .error f => .error (.disk f)
    | .ok bytes => (documentOf bytes).map some

theorem Disk.document?_congr {d d' : Disk} {here : Location} {p : Path}
    (h : ∀ m ∈ p.trail here, d'.lookup m = d.lookup m) :
    d'.document? here p = d.document? here p := by
  rw [document?, document?, isFile_congr h, read_congr h]

theorem Disk.document?_of_read {d : Disk} {here : Location} {p : Path} {bytes : List UInt8}
    (h : d.read here p = .ok bytes) : d.document? here p = (documentOf bytes).map some := by
  rw [document?, isFile_of_read h, h]

variable {τ σ α β γ δ : Type}

namespace World

def afterRun (tools : Tools τ) (c : Command) (w : World τ σ) : World τ σ :=
  let (_, state, disk) := tools c w.here w.tools w.disk
  { w with tools := state, disk := disk, commands := w.commands ++ [c] }

theorem afterRun_disk (tools : Tools τ) (c : Command) (w : World τ σ) :
    (w.afterRun tools c).disk = (tools c w.here w.tools w.disk).2.2 := rfl

theorem afterRun_tools (tools : Tools τ) (c : Command) (w : World τ σ) :
    (w.afterRun tools c).tools = (tools c w.here w.tools w.disk).2.1 := rfl

/-- Two worlds with the same files, tools and count of temporary directories. -/
structure Agrees (w v : World τ σ) : Prop where
  disk : v.disk = w.disk
  here : v.here = w.here
  tools : v.tools = w.tools
  temporaries : v.temporaries = w.temporaries

/-- The second world is the first one with changes only at places of the region, which may depend on
where the program runs. That there is a directory where it runs is understood, and it stays. -/
structure ChangedIn (region : Location → Location → Prop) (w v : World τ σ) : Prop where
  here : v.here = w.here
  kept : w.disk.lookup w.here = some .directory → ∀ l, l = w.here ∨ ¬ region w.here l →
    v.disk.lookup l = w.disk.lookup l

/-- Whatever was a directory still is one. -/
structure Stays (w v : World τ σ) : Prop where
  here : v.here = w.here
  directories : ∀ l, w.disk.lookup l = some .directory → v.disk.lookup l = some .directory

instance : IsPreorder (World τ σ) Stays where
  refl _ := ⟨rfl, fun _ h => h⟩
  trans _ _ _ h h' := ⟨h'.here.trans h.here, fun l hl => h'.directories l (h.directories l hl)⟩

theorem Stays.grounded {w v : World τ σ} (h : Stays w v) (hground : w.disk.Grounded w.here) :
    v.disk.Grounded v.here := fun l hl => h.directories l (hground l (h.here ▸ hl))

theorem Agrees.stays {w v : World τ σ} (h : Agrees w v) : Stays w v :=
  ⟨h.here, fun l hl => by rw [h.disk, hl]⟩

instance : IsPreorder (World τ σ) Agrees where
  refl _ := ⟨rfl, rfl, rfl, rfl⟩
  trans _ _ _ h h' := ⟨h'.disk.trans h.disk, h'.here.trans h.here, h'.tools.trans h.tools,
    h'.temporaries.trans h.temporaries⟩

instance (region : Location → Location → Prop) :
    IsPreorder (World τ σ) (ChangedIn region) where
  refl _ := ⟨rfl, fun _ _ _ => rfl⟩
  trans w v u h h' := by
    refine ⟨h'.here.trans h.here, fun hdir l hl => ?_⟩
    have hstill : v.disk.lookup v.here = some .directory := by
      rw [h.here, h.kept hdir w.here (.inl rfl), hdir]
    have hl' : l = v.here ∨ ¬ region v.here l := by
      rw [h.here]
      exact hl
    rw [h'.kept hstill l hl', h.kept hdir l hl]

theorem ChangedIn.mono {region region' : Location → Location → Prop} {w v : World τ σ}
    (h : ChangedIn region w v) (hregion : ∀ here l, region here l → region' here l) :
    ChangedIn region' w v :=
  ⟨h.here, fun hdir l hl => h.kept hdir l (hl.imp_right fun hl hin => hl (hregion _ l hin))⟩

theorem Agrees.changedIn {region : Location → Location → Prop} {w v : World τ σ}
    (h : Agrees w v) : ChangedIn region w v :=
  ⟨h.here, fun _ l _ => by rw [h.disk]⟩

end World

namespace Act

section Equations

variable (w : World τ σ)

theorem perform_pure (a : α) : (pure a : Act τ σ α).perform w = (.ok a, w) := rfl

theorem perform_bind (act : Act τ σ α) (f : α → Act τ σ β) :
    (act >>= f).perform w = match act.perform w with
      | (.ok a, v) => (f a).perform v
      | (.error e, v) => (.error e, v) := by
  have h : (act >>= f).perform w = (ExceptT.bindCont f (act w).1) (act w).2 := rfl
  rw [h]
  have hact : act.perform w = act w := rfl
  rw [hact]
  rcases act w with ⟨_ | a, v⟩ <;> rfl

theorem perform_map (f : α → β) (act : Act τ σ α) :
    (f <$> act).perform w = ((act.perform w).1.map f, (act.perform w).2) := by
  have h : (f <$> act).perform w = (act >>= fun a => pure (f a)).perform w := by
    rw [bind_pure_comp]
  rw [h, perform_bind]
  rcases act.perform w with ⟨_ | a, v⟩ <;> rfl

theorem perform_get : (get : Act τ σ (World τ σ)).perform w = (.ok w, w) := rfl

theorem perform_set (v : World τ σ) : (set v : Act τ σ Unit).perform w = (.ok (), v) := rfl

theorem perform_ask (question : Disk → Location → α) :
    (ask question : Act τ σ α).perform w = (.ok (question w.disk w.here), w) := rfl

theorem perform_inquire (question : Disk → Location → Except Disk.Fault α) :
    (inquire question : Act τ σ α).perform w = ((question w.disk w.here).mapError .disk, w) := by
  rw [inquire, perform_bind, perform_ask]
  cases question w.disk w.here <;> rfl

theorem perform_change (update : Disk → Location → Except Disk.Fault Disk) :
    (change update : Act τ σ Unit).perform w = match update w.disk w.here with
      | .ok disk => (.ok (), { w with disk := disk })
      | .error f => (.error (.disk f), w) := by
  rw [change, perform_bind, perform_get]
  dsimp only
  cases update w.disk w.here <;> rfl

theorem perform_report (step : Step) :
    (report step : Act τ σ Unit).perform w = (.ok (), { w with steps := w.steps ++ [step] }) := rfl

theorem perform_ensuring (act : Act τ σ α) (last : Act τ σ Unit) :
    (ensuring act last).perform w =
      ((act.perform w).1, (last.perform (act.perform w).2).2) := rfl

theorem perform_attempt (act : Act τ σ α) :
    (attempt act).perform w = (.ok (act.perform w).1, (act.perform w).2) := rfl

theorem perform_remove (p : Path) :
    (remove p : Act τ σ Unit).perform w =
      (.ok (), { w with disk := w.disk.remove w.here p }) := by
  rw [remove, perform_change]

theorem perform_readText (p : Path) :
    (readText p : Act τ σ _).perform w = (match w.disk.read w.here p with
      | .error f => .error (.disk f)
      | .ok bytes =>
        match Text.Utf8.decode bytes with
        | .error m => .error (.encoding m)
        | .ok cs => .ok (Text.Utf8.unifyLineEnds cs), w) := by
  rw [readText, readBytes, perform_bind, perform_inquire]
  rcases w.disk.read w.here p with f | bytes
  · rfl
  · simp only [Except.mapError]
    cases Text.Utf8.decode bytes <;> rfl

theorem perform_readJson (p : Path) :
    (readJson p : Act τ σ _).perform w = (match w.disk.read w.here p with
      | .error f => .error (.disk f)
      | .ok bytes => documentOf bytes, w) := by
  rw [readJson, perform_bind, perform_readText]
  rcases w.disk.read w.here p with f | bytes
  · rfl
  · simp only [documentOf]
    rcases Text.Utf8.decode bytes with m | cs
    · rfl
    · dsimp only
      cases Json.load (Text.Utf8.unifyLineEnds cs) <;> rfl

theorem perform_readJson? (p : Path) :
    (readJson? p : Act τ σ _).perform w = (w.disk.document? w.here p, w) := by
  rw [readJson?, isFile, perform_bind, perform_inquire, Disk.document?]
  rcases w.disk.isFile w.here p with f | _ | _
  · rfl
  · rfl
  · simp only [Except.mapError, if_true]
    rw [perform_map, perform_readJson]
    rcases w.disk.read w.here p with f | bytes <;> rfl

theorem perform_writeBytes (p : Path) (bytes : List UInt8) :
    (writeBytes p bytes : Act τ σ Unit).perform w = match w.disk.write w.here p bytes with
      | .ok disk => (.ok (), { w with disk := disk })
      | .error f => (.error (.disk f), w) := by
  rw [writeBytes, perform_change]

theorem perform_run (tools : Tools τ) (c : Command) :
    (run tools c : Act τ σ Output).perform w =
      (match (tools c w.here w.tools w.disk).1 with
        | .absent => .error (.tool (.absent c))
        | .timedOut => .error (.tool (.timedOut c))
        | .broken f => .error (.disk f)
        | .finished output => .ok output, w.afterRun tools c) := by
  rw [run, perform_bind, perform_get]
  dsimp only
  rcases h : tools c w.here w.tools w.disk with ⟨reply, state, disk⟩
  dsimp only
  rw [perform_bind, perform_set]
  simp only [World.afterRun, h]
  cases reply <;> rfl

theorem perform_acceptDirectory (p : Path) :
    (acceptDirectory p : Act τ σ Unit).perform w =
      match w.disk.acceptDirectory w.here p with
      | .ok disk => (.ok (), { w with disk := disk })
      | .error f => (.error (.disk f), w) := by
  rw [acceptDirectory, perform_bind, perform_attempt, perform_change, Disk.acceptDirectory]
  rcases w.disk.makeDirectory w.here p with ⟨cause, q⟩ | disk
  · by_cases hmissing : cause = .missing
    · subst hmissing
      rfl
    · simp only [hmissing, if_false]
      cases cause with
      | missing => exact absurd rfl hmissing
      | _ =>
        dsimp only
        rw [isDirectory, perform_bind, perform_inquire]
        rcases w.disk.isDirectory w.here p with f | _ | _ <;> rfl
  · rfl

theorem bind_eq_ok_iff {act : Act τ σ α} {f : α → Act τ σ β} {w v : World τ σ} {b : β} :
    (act >>= f).perform w = (.ok b, v) ↔
      ∃ a u, act.perform w = (.ok a, u) ∧ (f a).perform u = (.ok b, v) := by
  rw [perform_bind]
  rcases act.perform w with ⟨e | a, u⟩ <;> simp

theorem map_eq_ok_iff {f : α → β} {act : Act τ σ α} {w v : World τ σ} {b : β} :
    (f <$> act).perform w = (.ok b, v) ↔ ∃ a, act.perform w = (.ok a, v) ∧ b = f a := by
  rw [perform_map]
  rcases act.perform w with ⟨e | a, u⟩
  · simp [Except.map]
  · simp [Except.map, eq_comm, and_comm]

theorem bind_eq_error_iff {act : Act τ σ α} {f : α → Act τ σ β} {w v : World τ σ} {e : Failure} :
    (act >>= f).perform w = (.error e, v) ↔ act.perform w = (.error e, v) ∨
      ∃ a u, act.perform w = (.ok a, u) ∧ (f a).perform u = (.error e, v) := by
  rw [perform_bind]
  rcases act.perform w with ⟨e | a, u⟩ <;> simp

theorem inquire_eq_ok_iff {question : Disk → Location → Except Disk.Fault α} {w v : World τ σ}
    {a : α} :
    (inquire question).perform w = (.ok a, v) ↔ question w.disk w.here = .ok a ∧ v = w := by
  rw [perform_inquire, Prod.mk.injEq]
  cases question w.disk w.here <;> simp [Except.mapError, eq_comm]

theorem writeBytes_eq_ok_iff {p : Path} {bytes : List UInt8} {w v : World τ σ} :
    (writeBytes p bytes).perform w = (.ok (), v) ↔
      ∃ e, w.disk.write w.here p bytes = .ok e ∧ v = { w with disk := e } := by
  rw [perform_writeBytes]
  cases w.disk.write w.here p bytes <;> simp [eq_comm]

theorem writeBytes_eq_error_iff {p : Path} {bytes : List UInt8} {w v : World τ σ} {e : Failure} :
    (writeBytes p bytes).perform w = (.error e, v) ↔
      ∃ f, w.disk.write w.here p bytes = .error f ∧ e = .disk f ∧ v = w := by
  rw [perform_writeBytes]
  cases w.disk.write w.here p bytes <;> simp [eq_comm]

end Equations

/-- Whatever comes of the action, the world after it stands in this relation to the one before. -/
def Moves (rel : World τ σ → World τ σ → Prop) (act : Act τ σ α) : Prop :=
  ∀ w, rel w (act.perform w).2

section Moves

variable {rel rel' : World τ σ → World τ σ → Prop} {region : Location → Location → Prop}

theorem Moves.mono {act : Act τ σ α} (h : Moves rel act) (hsub : ∀ w v, rel w v → rel' w v) :
    Moves rel' act := fun w => hsub _ _ (h w)

theorem Moves.of_eq {act : Act τ σ α} [IsPreorder _ rel] (h : ∀ w, (act.perform w).2 = w) :
    Moves rel act := fun w => by
  rw [h w]
  exact Std.Refl.refl w

theorem moves_pure [IsPreorder _ rel] (a : α) : Moves rel (pure a : Act τ σ α) :=
  .of_eq fun _ => rfl

theorem moves_fail [IsPreorder _ rel] (e : Failure) : Moves rel (fail e : Act τ σ α) :=
  .of_eq fun _ => rfl

theorem Moves.bind_of_result [IsPreorder _ rel] {act : Act τ σ α} {f : α → Act τ σ β}
    (h : Moves rel act) {can : α → Prop}
    (hcan : ∀ w a v, act.perform w = (.ok a, v) → can a) (hf : ∀ a, can a → Moves rel (f a)) :
    Moves rel (act >>= f) := by
  intro w
  have hact := h w
  rw [perform_bind]
  rcases hp : act.perform w with ⟨e | a, v⟩
  · rw [hp] at hact
    exact hact
  · rw [hp] at hact
    exact IsTrans.trans _ _ _ hact (hf a (hcan w a v hp) v)

theorem Moves.bind [IsPreorder _ rel] {act : Act τ σ α} {f : α → Act τ σ β} (h : Moves rel act)
    (hf : ∀ a, Moves rel (f a)) : Moves rel (act >>= f) :=
  h.bind_of_result (fun _ _ _ _ => trivial) fun a _ => hf a

theorem Moves.of_perform {act : Act τ σ α} (h : Moves rel act) {w v : World τ σ}
    {result : Except Failure α} (hact : act.perform w = (result, v)) : rel w v := by
  have hw := h w
  rwa [hact] at hw

theorem Moves.of_bind_eq_error {act : Act τ σ α} {f : α → Act τ σ β} (h : Moves rel act)
    {w v : World τ σ} {e : Failure} (hbind : (act >>= f).perform w = (.error e, v)) :
    rel w v ∨ ∃ a u, rel w u ∧ (f a).perform u = (.error e, v) := by
  have hact := h w
  rcases bind_eq_error_iff.1 hbind with hfail | ⟨a, u, hok, hrest⟩
  · rw [hfail] at hact
    exact .inl hact
  · rw [hok] at hact
    exact .inr ⟨a, u, hact, hrest⟩

theorem Moves.map [IsPreorder _ rel] {act : Act τ σ α} (f : α → β) (h : Moves rel act) :
    Moves rel (f <$> act) := fun w => by
  rw [perform_map]
  exact h w

theorem Moves.attempt {act : Act τ σ α} (h : Moves rel act) : Moves rel (attempt act) := h

theorem Moves.ensuring [IsPreorder _ rel] {act : Act τ σ α} {last : Act τ σ Unit}
    (h : Moves rel act) (hlast : Moves rel last) : Moves rel (ensuring act last) :=
  fun w => IsTrans.trans _ _ _ (h w) (hlast _)

theorem moves_inquire [IsPreorder _ rel] (question : Disk → Location → Except Disk.Fault α) :
    Moves rel (inquire question) :=
  .of_eq fun w => by rw [perform_inquire]

theorem moves_readText [IsPreorder _ rel] (p : Path) : Moves rel (readText p) :=
  .of_eq fun w => by rw [perform_readText]

theorem moves_readJson [IsPreorder _ rel] (p : Path) : Moves rel (readJson p) :=
  .of_eq fun w => by rw [perform_readJson]

theorem moves_readJson? [IsPreorder _ rel] (p : Path) : Moves rel (readJson? p) :=
  .of_eq fun w => by rw [perform_readJson?]

theorem moves_warnAll (l : List Warning) :
    Moves World.Agrees (warnAll l : Act τ σ Unit) :=
  fun _ => ⟨rfl, rfl, rfl, rfl⟩

theorem moves_report (step : Step) : Moves World.Agrees (report step : Act τ σ Unit) :=
  fun _ => ⟨rfl, rfl, rfl, rfl⟩

theorem Moves.changedIn {act : Act τ σ α} (h : Moves World.Agrees act) :
    Moves (World.ChangedIn region) act := h.mono fun _ _ => World.Agrees.changedIn

theorem moves_change {update : Disk → Location → Except Disk.Fault Disk}
    (h : ∀ d e here, update d here = .ok e → d.lookup here = some .directory →
      ∀ l, l = here ∨ ¬ region here l → e.lookup l = d.lookup l) :
    Moves (World.ChangedIn region) (change update : Act τ σ Unit) := by
  intro w
  rw [perform_change]
  rcases hupdate : update w.disk w.here with f | e
  · exact Std.Refl.refl w
  · exact ⟨rfl, fun hdir l hl => h _ _ _ hupdate hdir l hl⟩

theorem moves_writeBytes {p : Path} (bytes : List UInt8)
    (h : ∀ here, region here (p.place here)) :
    Moves (World.ChangedIn region) (writeBytes p bytes : Act τ σ Unit) := by
  refine moves_change fun d e here hwrite hdir l hl => ?_
  obtain ⟨_, htakes, rfl⟩ := Disk.write_eq_ok_iff.1 hwrite
  apply Disk.lookup_put_ne
  rintro rfl
  rcases hl with hl | hl
  · exact htakes.ne_of_directory hdir hl
  · exact hl (h here)

theorem moves_acceptDirectory {p : Path}
    (h : ∀ here, p.place here = here ∨ region here (p.place here)) :
    Moves (World.ChangedIn region) (acceptDirectory p : Act τ σ Unit) := by
  intro w
  rw [perform_acceptDirectory]
  rcases haccept : w.disk.acceptDirectory w.here p with f | e
  · exact Std.Refl.refl w
  · refine ⟨rfl, fun hdir l hl => Disk.acceptDirectory_lookup haccept ?_⟩
    by_cases hplace : l = p.place w.here
    · right
      subst hplace
      have hhere : p.place w.here = w.here := by
        rcases hl with hl | hl
        · exact hl
        · exact (h w.here).resolve_right hl
      rw [hhere, hdir]
      simp
    · exact .inl hplace

theorem moves_makeDirectoriesUpTo [IsPreorder _ rel] (above : Nat) {p : Path}
    (h : ∀ q : Path, q.slashes = p.slashes → q.segments <+: p.segments →
      Moves rel (acceptDirectory q : Act τ σ Unit)) :
    Moves rel (makeDirectoriesUpTo above p : Act τ σ Unit) := by
  have hself : Moves rel (acceptDirectory p : Act τ σ Unit) := h p rfl (List.prefix_refl _)
  induction above generalizing p with
  | zero => exact hself
  | succ above ih =>
    have hparent : ∀ q : Path, q.slashes = p.parent.slashes →
        q.segments <+: p.parent.segments → Moves rel (acceptDirectory q : Act τ σ Unit) :=
      fun q hs hp => h q hs (hp.trans (List.dropLast_prefix _))
    have hup := ih hparent (hparent p.parent rfl (List.prefix_refl _))
    refine hself.attempt.bind fun result => ?_
    split
    · exact moves_pure ()
    · split
      · exact (moves_fail _).bind fun _ => hup.bind fun _ => hself
      · exact hup.bind fun _ => hself
    · exact moves_fail _

theorem moves_makeDirectories {p : Path}
    (h : ∀ here (q : Path), q.slashes = p.slashes → q.segments <+: p.segments →
      q.place here = here ∨ region here (q.place here)) :
    Moves (World.ChangedIn region) (makeDirectories p : Act τ σ Unit) :=
  moves_makeDirectoriesUpTo _ fun q hs hq => moves_acceptDirectory fun here => h here q hs hq

theorem moves_remove {p : Path} (hhere : ∀ here, ¬ p.place here <+: here)
    (h : ∀ here l, p.place here <+: l → region here l) :
    Moves (World.ChangedIn region) (remove p : Act τ σ Unit) := by
  refine moves_change fun d e here hremove _ l hl => ?_
  cases hremove
  unfold Disk.remove
  split
  · rename_i m hm
    obtain ⟨_, rfl⟩ := Disk.leads_of_locate hm
    apply Disk.lookup_erase_of_not_prefix
    rcases hl with rfl | hl
    · exact hhere l
    · exact fun hinit => hl (h here l hinit)
  · rfl

theorem moves_run {tools : Tools τ} {c : Command}
    (h : ∀ here s d, d.lookup here = some .directory → ∀ l, l = here ∨ ¬ region here l →
      (tools c here s d).2.2.lookup l = d.lookup l) :
    Moves (World.ChangedIn region) (run tools c : Act τ σ Output) := by
  intro w
  rw [perform_run]
  exact ⟨rfl, fun hdir l hl => h w.here w.tools w.disk hdir l hl⟩

/-! Directories stay -/

theorem stays_acceptDirectory (p : Path) :
    Moves World.Stays (acceptDirectory p : Act τ σ Unit) := by
  intro w
  rw [perform_acceptDirectory]
  rcases haccept : w.disk.acceptDirectory w.here p with f | e
  · exact Std.Refl.refl w
  · refine ⟨rfl, fun l hl => ?_⟩
    rw [Disk.acceptDirectory_lookup haccept (.inr (by simp [hl])), hl]

theorem stays_makeDirectoriesUpTo (above : Nat) (p : Path) :
    Moves World.Stays (makeDirectoriesUpTo above p : Act τ σ Unit) :=
  moves_makeDirectoriesUpTo above fun q _ _ => stays_acceptDirectory q

theorem stays_makeDirectories (p : Path) :
    Moves World.Stays (makeDirectories p : Act τ σ Unit) := stays_makeDirectoriesUpTo _ p

theorem stays_writeBytes (p : Path) (bytes : List UInt8) :
    Moves World.Stays (writeBytes p bytes : Act τ σ Unit) := by
  intro w
  rw [perform_writeBytes]
  rcases hwrite : w.disk.write w.here p bytes with f | e
  · exact Std.Refl.refl w
  · obtain ⟨_, htakes, rfl⟩ := Disk.write_eq_ok_iff.1 hwrite
    exact ⟨rfl, fun l hl =>
      (Disk.lookup_put_ne w.disk _ (htakes.ne_of_directory hl)).trans hl⟩

end Moves

section Directories

theorem acceptDirectory_eq_ok {p : Path} {w v : World τ σ}
    (h : (acceptDirectory p).perform w = (.ok (), v)) :
    v = { w with disk := v.disk } ∧ v.disk.isDirectory w.here p = .ok true := by
  rw [perform_acceptDirectory] at h
  rcases haccept : w.disk.acceptDirectory w.here p with f | e
  · rw [haccept] at h
    cases h
  · rw [haccept] at h
    cases h
    exact ⟨rfl, Disk.isDirectory_of_acceptDirectory haccept⟩

theorem acceptDirectory_eq_error {p : Path} {w v : World τ σ} {e : Failure}
    (h : (acceptDirectory p).perform w = (.error e, v)) :
    ∃ f, e = .disk f ∧ w.disk.acceptDirectory w.here p = .error f := by
  rw [perform_acceptDirectory] at h
  rcases haccept : w.disk.acceptDirectory w.here p with f | disk
  · rw [haccept] at h
    cases h
    exact ⟨f, rfl, rfl⟩
  · rw [haccept] at h
    cases h

theorem perform_makeDirectoriesUpTo_succ (above : Nat) (p : Path) (w : World τ σ) :
    (makeDirectoriesUpTo (above + 1) p : Act τ σ Unit).perform w =
      match w.disk.acceptDirectory w.here p with
      | .ok disk => (.ok (), { w with disk := disk })
      | .error f =>
        if f.cause = .missing ∧ p.parent ≠ p then
          (do makeDirectoriesUpTo above p.parent; acceptDirectory p : Act τ σ Unit).perform w
        else (.error (.disk f), w) := by
  rw [makeDirectoriesUpTo, perform_bind, perform_attempt, perform_acceptDirectory]
  rcases w.disk.acceptDirectory w.here p with ⟨cause, q⟩ | disk
  · cases cause with
    | missing =>
      by_cases hparent : p.parent = p
      · simp only [hparent, if_true, ne_eq, not_true_eq_false, and_false, if_false]
        rfl
      · simp only [hparent, if_false, ne_eq, not_false_eq_true, and_true, if_true]
    | _ => rfl
  · rfl

theorem makeDirectoriesUpTo_eq_ok {above : Nat} {p : Path} {w v : World τ σ}
    (h : (makeDirectoriesUpTo above p).perform w = (.ok (), v)) :
    v = { w with disk := v.disk } ∧ v.disk.isDirectory w.here p = .ok true := by
  induction above generalizing p w v with
  | zero => exact acceptDirectory_eq_ok h
  | succ above ih =>
    rw [perform_makeDirectoriesUpTo_succ] at h
    split at h
    · rename_i disk haccept
      cases h
      exact ⟨rfl, Disk.isDirectory_of_acceptDirectory haccept⟩
    · split at h
      · obtain ⟨⟨⟩, u, hup, hlast⟩ := bind_eq_ok_iff.1 h
        obtain ⟨hu, _⟩ := ih hup
        obtain ⟨hv, hdir⟩ := acceptDirectory_eq_ok hlast
        rw [hu] at hv hdir
        exact ⟨hv, hdir⟩
      · cases h

theorem makeDirectoriesUpTo_eq_error {above : Nat} {p : Path} {w v : World τ σ} {e : Failure}
    (hground : w.disk.Grounded w.here) (habove : p.segments.length ≤ above)
    (h : (makeDirectoriesUpTo above p).perform w = (.error e, v)) :
    ∃ f, e = .disk f ∧ f.cause ≠ .missing := by
  induction above generalizing p v with
  | zero =>
    obtain ⟨f, rfl, haccept⟩ := acceptDirectory_eq_error h
    have hreaches : w.disk.Reaches w.here p :=
      hground.reaches fun hne => absurd (List.length_eq_zero_iff.1 (Nat.le_zero.1 habove)) hne
    exact ⟨f, rfl, hreaches.acceptDirectory_cause_ne haccept⟩
  | succ above ih =>
    rw [perform_makeDirectoriesUpTo_succ] at h
    split at h
    · cases h
    · rename_i f haccept
      split at h
      · rw [perform_bind] at h
        rcases hup : (makeDirectoriesUpTo above p.parent).perform w with ⟨e' | ⟨⟩, u⟩
        · rw [hup] at h
          cases h
          refine ih ?_ hup
          rw [Path.parent, List.length_dropLast]
          omega
        · rw [hup] at h
          -- The parent is there by now, so nothing can be missing at the second try.
          obtain ⟨f', rfl, haccept'⟩ := acceptDirectory_eq_error h
          have hstays := stays_makeDirectoriesUpTo above p.parent w
          rw [hup] at hstays
          obtain ⟨_, hdir⟩ := makeDirectoriesUpTo_eq_ok hup
          have hground' : u.disk.Grounded u.here := hstays.grounded hground
          rw [← hstays.here] at hdir
          exact ⟨f', rfl, (hground'.reaches fun _ => hdir).acceptDirectory_cause_ne haccept'⟩
      · rename_i hstop
        cases h
        refine ⟨f, rfl, fun hmissing => ?_⟩
        have hparent : p.parent = p := by
          by_contra hne
          exact hstop ⟨hmissing, hne⟩
        have hreaches : w.disk.Reaches w.here p :=
          hground.reaches fun hne => absurd (Path.parent_eq_self_iff.1 hparent) hne
        exact hreaches.acceptDirectory_cause_ne haccept hmissing

theorem makeDirectories_eq_ok {p : Path} {w v : World τ σ}
    (h : (makeDirectories p).perform w = (.ok (), v)) :
    v = { w with disk := v.disk } ∧ v.disk.isDirectory w.here p = .ok true :=
  makeDirectoriesUpTo_eq_ok h

theorem makeDirectories_eq_error {p : Path} {w v : World τ σ} {e : Failure}
    (hground : w.disk.Grounded w.here) (h : (makeDirectories p).perform w = (.error e, v)) :
    ∃ f, e = .disk f ∧ f.cause ≠ .missing :=
  makeDirectoriesUpTo_eq_error hground (Nat.le_refl _) h

theorem writeBytes_eq_error {p : Path} {bytes : List UInt8} {w v : World τ σ} {e : Failure}
    (hground : w.disk.Grounded w.here) (hdir : w.disk.isDirectory w.here p.parent = .ok true)
    (h : (writeBytes p bytes).perform w = (.error e, v)) :
    ∃ f, e = .disk f ∧ f.cause ≠ .missing := by
  obtain ⟨f, hwrite, rfl, rfl⟩ := writeBytes_eq_error_iff.1 h
  exact ⟨f, rfl, (hground.reaches fun _ => hdir).write_cause_ne hwrite⟩

theorem makeDirectories_of_isDirectory {p : Path} {w : World τ σ}
    (h : w.disk.isDirectory w.here p = .ok true) :
    (makeDirectories p).perform w = (.ok (), w) := by
  have haccept : (acceptDirectory p).perform w = (.ok (), w) := by
    rw [perform_acceptDirectory, Disk.acceptDirectory_eq_ok_iff.2 (.inr ⟨h, rfl⟩)]
  unfold makeDirectories
  cases p.segments.length with
  | zero => exact haccept
  | succ above =>
    rw [makeDirectoriesUpTo, perform_bind, perform_attempt, haccept]
    rfl

end Directories

/-- When the first action succeeds, then from every related world the second one succeeds too, and
the results and the worlds after it are related in turn. -/
def Follows (before : World τ σ → World τ σ → Prop) (act : Act τ σ α) (act' : Act τ σ β)
    (after : α → β → World τ σ → World τ σ → Prop) : Prop :=
  ∀ ⦃w w'⦄, before w w' → ∀ ⦃a v⦄, act.perform w = (.ok a, v) →
    ∃ b v', act'.perform w' = (.ok b, v') ∧ after a b v v'

/-- The second action gives what the first one gave, and the worlds stay related. -/
def Repeats (rel : World τ σ → World τ σ → Prop) (act act' : Act τ σ α) : Prop :=
  Follows rel act act' fun a b v v' => b = a ∧ rel v v'

section Follows

variable {before : World τ σ → World τ σ → Prop}
  {after : α → β → World τ σ → World τ σ → Prop} {next : γ → δ → World τ σ → World τ σ → Prop}
  {act : Act τ σ α} {act' : Act τ σ β}

theorem follows_pure {a : α} {b : β} (h : ∀ w w', before w w' → after a b w w') :
    Follows before (pure a) (pure b) after := by
  intro w w' hw a' v hv
  cases hv
  exact ⟨b, w', rfl, h w w' hw⟩

theorem follows_fail (e : Failure) (act' : Act τ σ β) :
    Follows before (fail e : Act τ σ α) act' after := by
  intro w w' _ a v hv
  cases hv

theorem follows_fail_bind (e : Failure) (f : α → Act τ σ γ) (act' : Act τ σ δ) :
    Follows before (fail e >>= f) act' next := by
  intro w w' _ a v hv
  cases hv

theorem Follows.bind {f : α → Act τ σ γ} {g : β → Act τ σ δ} (h : Follows before act act' after)
    (hf : ∀ a b, Follows (after a b) (f a) (g b) next) :
    Follows before (act >>= f) (act' >>= g) next := by
  intro w w' hw c v hv
  obtain ⟨a, u, hact, hrest⟩ := bind_eq_ok_iff.1 hv
  obtain ⟨b, u', hact', hu⟩ := h hw hact
  obtain ⟨d, v', hrest', hv'⟩ := hf a b hu hrest
  exact ⟨d, v', bind_eq_ok_iff.2 ⟨b, u', hact', hrest'⟩, hv'⟩

theorem Follows.mono {before' : World τ σ → World τ σ → Prop}
    {after' : α → β → World τ σ → World τ σ → Prop} (h : Follows before act act' after)
    (hbefore : ∀ w w', before' w w' → before w w')
    (hafter : ∀ a b w w', after a b w w' → after' a b w w') :
    Follows before' act act' after' := by
  intro w w' hw a v hv
  obtain ⟨b, v', hv', hrel⟩ := h (hbefore w w' hw) hv
  exact ⟨b, v', hv', hafter a b v v' hrel⟩

theorem Repeats.bind {act act' : Act τ σ α} {f : α → Act τ σ γ} {g : α → Act τ σ δ}
    (h : Repeats before act act') (hf : ∀ a, Follows before (f a) (g a) next) :
    Follows before (act >>= f) (act' >>= g) next := by
  refine Follows.bind h fun a b w w' ⟨hab, hw⟩ => ?_
  obtain rfl := hab
  exact hf _ hw

theorem Repeats.attempt {act act' : Act τ σ α} (h : Repeats before act act') :
    Follows before (attempt act) (attempt act') fun r r' v v' =>
      (∃ a, r = .ok a ∧ r' = .ok a ∧ before v v') ∨ ∃ e, r = .error e := by
  intro w w' hw r v hv
  rw [perform_attempt] at hv
  cases hact : (act.perform w).1 with
  | error e =>
    obtain ⟨hr, rfl⟩ := Prod.mk.inj hv
    cases hr
    exact ⟨_, _, rfl, .inr ⟨e, hact⟩⟩
  | ok a =>
    obtain ⟨hr, rfl⟩ := Prod.mk.inj hv
    cases hr
    obtain ⟨b, v', hb, rfl, hrel⟩ := h hw (Prod.ext hact rfl)
    exact ⟨.ok b, v', by rw [perform_attempt, hb], .inl ⟨b, hact, rfl, hrel⟩⟩

theorem Follows.ensuring {act' : Act τ σ α} {last last' : Act τ σ Unit}
    (h : Follows before act act' fun a b _ _ => b = a) :
    Follows before (ensuring act last) (ensuring act' last') fun a b _ _ => b = a := by
  intro w w' hw a v hv
  rw [perform_ensuring] at hv
  obtain ⟨hresult, _⟩ := Prod.mk.inj hv
  obtain ⟨b, v', hv', hb⟩ := h hw (Prod.ext hresult rfl)
  exact ⟨b, (last'.perform v').2, by rw [perform_ensuring, hv'], hb⟩

end Follows

end Act

end ExportBundle
