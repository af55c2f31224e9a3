import Weave.Proofs.Processing
import Weave.Proofs.Retention

/-!
# Weave.Proofs.Entries — a new file in a cache is the report of a run

A report is written aside, moved to its entry, and removed again if it cannot be moved. So a store
leaves one regular file that may not have been there before: the entry, with the report. If the
toolchain changes no file by itself, then every file that a page leaves behind is the entry of a
request that the toolchain has run with success.

1. **Disks**: `Disk.Adds` bounds the regular files that are new or changed, location by location. A
   file that is written aside and then moved (`tidiedUp_move`) or discarded (`tidiedUp_discard`) is
   not left behind.
2. **A store** adds its entry (`DiskCache.adds_store`).
3. **A request** adds its entry, if the cache lacked it and the toolchain ran it (`adds_cached`).
4. **A page** adds such entries alone (`adds_weave`).
-/

namespace Weave

namespace Disk

variable {added : Location → ByteArray → Prop} {disk disk' disk'' : Disk}

/-! ## Disks -/

/-- Every regular file that is there afterwards was there before with the same bytes, or was
added. -/
def Adds (added : Location → ByteArray → Prop) (before after : Disk) : Prop :=
  ∀ location bytes, after.file? location = some bytes →
    before.file? location = some bytes ∨ added location bytes

theorem Adds.trans (h : Adds added disk disk') (h' : Adds added disk' disk'') :
    Adds added disk disk'' := by
  intro location bytes hfile
  rcases h' location bytes hfile with hbefore | hadded
  · exact h location bytes hbefore
  · exact .inr hadded

theorem Adds.mono {more : Location → ByteArray → Prop} (h : Adds added disk disk')
    (hmore : ∀ location bytes, added location bytes → more location bytes) :
    Adds more disk disk' :=
  fun location bytes hfile => (h location bytes hfile).imp_right (hmore location bytes)

/-- What touches no file adds none. -/
theorem ModifiesOnly.adds (h : ModifiesOnly Nowhere disk disk') : Adds added disk disk' := by
  intro location bytes hfile
  rw [h.files location id] at hfile
  exact .inl hfile

theorem file?_put {location : Location} (hne : location ≠ []) (node : Node) (l : Location) :
    (disk.put location node).file? l = if l = location then node.bytes? else disk.file? l := by
  rw [file?, node?_put disk l node hne]
  split <;> rfl

theorem file?_drop {location : Location} (hne : location ≠ []) (l : Location) :
    (disk.drop location).file? l = if l = location then none else disk.file? l := by
  rw [file?, node?_drop disk l hne]
  split <;> rfl

/-! ## Files that were put aside -/

/-- The working directory stays, and so do the regular files outside of a scope, but for one at the
location of a file that was put aside: if that was there before, it may have gone. -/
structure TidiedUp (aside : Location) (scope : Location → Prop) (before after : Disk) : Prop where
  workDir : after.workDir = before.workDir
  files : ∀ location, ¬ scope location →
    after.file? location = before.file? location ∨ location = aside ∧ after.file? location = none

section

variable {aside : Location} {scope : Location → Prop}

theorem ModifiesOnly.tidiedUp (h : ModifiesOnly scope disk disk') :
    TidiedUp aside scope disk disk' :=
  ⟨h.workDir, fun location hout => .inl (h.files location hout)⟩

/-- If no file was there before then nothing else has changed. -/
theorem TidiedUp.modifiesOnly (h : TidiedUp aside scope disk disk')
    (hnew : disk.file? aside = none) : ModifiesOnly scope disk disk' := by
  refine ⟨h.workDir, fun location hout => ?_⟩
  rcases h.files location hout with hsame | ⟨rfl, hnone⟩
  · exact hsame
  · rw [hnone, hnew]

theorem TidiedUp.mono {wider : Location → Prop} (h : TidiedUp aside scope disk disk')
    (hwider : ∀ location, scope location → wider location) : TidiedUp aside wider disk disk' :=
  ⟨h.workDir, fun location hout => h.files location fun hin => hout (hwider location hin)⟩

theorem TidiedUp.of_nowhere (hfirst : ModifiesOnly Nowhere disk disk')
    (h : TidiedUp aside scope disk' disk'') : TidiedUp aside scope disk disk'' := by
  refine ⟨h.workDir.trans hfirst.workDir, fun location hout => ?_⟩
  rw [← hfirst.files location id]
  exact h.files location hout

/-- What is added is in the scope. -/
theorem TidiedUp.adds (h : TidiedUp aside scope disk disk')
    (hadded : ∀ location bytes, scope location → disk'.file? location = some bytes →
      added location bytes) : Adds added disk disk' := by
  intro location bytes hfile
  by_cases hin : scope location
  · exact .inr (hadded location bytes hin hfile)
  · rcases h.files location hin with hsame | ⟨-, hnone⟩
    · exact .inl (hsame.symm.trans hfile)
    · cases hnone.symm.trans hfile

end

/-- A file is written and discarded again. -/
theorem tidiedUp_discard {path : Text} {bytes : ByteArray} (h : disk.write path bytes = .ok disk') :
    TidiedUp (disk.locationOf path) Nowhere disk (Process.discard disk' path) := by
  have hwritten : ∃ node, disk'.stat path = .ok node ∧ node ≠ .dir := by
    rcases stat_of_write h with hstat | ⟨hstat, -⟩
    · exact ⟨_, hstat, by simp⟩
    · exact ⟨_, hstat, by simp⟩
  obtain ⟨node, hstat, hdir⟩ := hwritten
  obtain ⟨hlocate, hnode⟩ := node?_of_stat hstat
  have hmodified := modifiesOnly_write h
  have hlocation := locationOf_congr hmodified.workDir path
  rw [Process.discard_of_node hlocate hnode hdir]
  refine ⟨hmodified.workDir, fun l _ => ?_⟩
  rw [file?_drop (ne_root_of_node? hnode hdir), hlocation]
  by_cases hl : l = disk.locationOf path
  · exact .inr ⟨hl, if_pos hl⟩
  · rw [if_neg hl]
    exact .inl (hmodified.files l hl)

/-- A file is written and moved. -/
theorem tidiedUp_move {source target : Text} {bytes : ByteArray} {written : Disk}
    (hwrite : disk.write source bytes = .ok written)
    (hrename : written.rename source target = .ok disk') :
    TidiedUp (disk.locationOf source) (· = disk.locationOf target) disk disk' := by
  have hmodified := modifiesOnly_write hwrite
  have hlocation := locationOf_congr hmodified.workDir
  obtain ⟨-, hne, -, node, hnode, hdir, rfl⟩ := rename_cases hrename
  refine ⟨hmodified.workDir, fun l hl => ?_⟩
  rw [file?_put hne, if_neg (by rwa [hlocation]), file?_drop (ne_root_of_node? hnode hdir), hlocation]
  by_cases hsource : l = disk.locationOf source
  · exact .inr ⟨hsource, if_pos hsource⟩
  · rw [if_neg hsource]
    exact .inl (hmodified.files l hsource)

/-- What is moved is what was written: a device is no regular file. -/
theorem bytes_of_move {source target : Text} {bytes found : ByteArray} {written : Disk}
    (hwrite : disk.write source bytes = .ok written)
    (hrename : written.rename source target = .ok disk')
    (hfile : disk'.file? (disk.locationOf target) = some found) : found = bytes := by
  have hlocation := locationOf_congr (modifiesOnly_write hwrite).workDir
  obtain ⟨-, hne, hwritten⟩ := write_cases hwrite
  obtain ⟨-, hne', -, node, hnode, -, rfl⟩ := rename_cases hrename
  rw [hlocation] at hnode hne'
  rw [hlocation target, file?_put hne', if_pos rfl] at hfile
  rcases hwritten with ⟨hsink, rfl⟩ | ⟨-, rfl⟩
  · rw [hsink] at hnode
    rw [← Option.some.inj hnode] at hfile
    cases hfile
  · rw [node?_put _ _ _ hne, if_pos rfl] at hnode
    rw [← Option.some.inj hnode] at hfile
    exact (Option.some.inj hfile).symm

end Disk

/-! ## A store -/

namespace DiskCache

open Disk

/-- The entries of a cache directory. -/
def IsEntry (dir : Text) (disk : Disk) (location : Location) : Prop :=
  ∃ request, location = disk.locationOf (entryFile dir (.ofRequest request))

/-- A report that is written adds its entry, or nothing if it cannot be moved there. -/
theorem adds_writeEntry (dir : Text) (request : Request) (report : Text) (disk : Disk) :
    disk.Adds (fun l bytes => l = disk.locationOf (entryFile dir (.ofRequest request)) ∧
      bytes = Text.encode report) (writeEntry dir (.ofRequest request) report disk).2 := by
  have hticked : disk.ModifiesOnly Nowhere disk.tick := ⟨rfl, fun _ _ => rfl⟩
  simp only [writeEntry]
  generalize tempPath dir (.ofRequest request) disk.stamp = temp
  generalize entryFile dir (.ofRequest request) = entry
  cases hwrite : disk.tick.writeText temp report with
  | error e => exact hticked.adds
  | ok written =>
    simp only
    cases hrename : written.rename temp entry with
    | error e =>
      exact hticked.adds.trans ((tidiedUp_discard hwrite).adds fun _ _ => False.elim)
    | ok renamed =>
      refine hticked.adds.trans ((tidiedUp_move hwrite hrename).adds ?_)
      rintro location bytes rfl hfile
      exact ⟨rfl, bytes_of_move hwrite hrename hfile⟩

theorem adds_store (dir : Text) (request : Request) (report : Text) (disk : Disk) :
    disk.Adds (fun l bytes => l = disk.locationOf (entryFile dir (.ofRequest request)) ∧
      bytes = Text.encode report) (store dir (.ofRequest request) report disk).2 := by
  have hprovided := (grows_provideDir disk dir).modifiesOnly
  unfold store
  split
  · next e between hprovide =>
    rw [hprovide] at hprovided
    exact hprovided.adds
  · next between hprovide =>
    rw [hprovide] at hprovided
    have hwritten := adds_writeEntry dir request report between
    rw [locationOf_congr hprovided.workDir] at hwritten
    exact hprovided.adds.trans hwritten

end DiskCache

/-! ## Requests -/

section

variable {τ : Type} {toolchain : Toolchain (World τ)}

/-- The cache lacked the request of a call and the toolchain ran it with success. This is its
report, in the file for its key. -/
structure Call.Fills (toolchain : Toolchain (World τ)) (cache : Cache (World τ)) (dir : Text)
    (disk : Disk) (call : Call (World τ)) (location : Location) (bytes : ByteArray) : Prop where
  lacked : cache.lacks call.key call.before.world = true
  ran : ∃ output, (toolchain.execute call.request call.before.world).1 = .ok output ∧
    bytes = Text.encode output.report
  entry : location = disk.locationOf (DiskCache.entryFile dir call.key)

variable (dir : Text)

/-- A request adds its entry. -/
theorem adds_cached (htoolchain : toolchain.LeavesFiles) (request : Request)
    (session : Session (World τ)) :
    let runner := Runner.cached toolchain (.disk dir)
    session.world.disk.Adds
      (Call.Fills toolchain (.disk dir) dir session.world.disk
        ⟨request, session, (runner request session).1, (runner request session).2⟩)
      (runner request session).2.world.disk := by
  intro runner
  have hran := htoolchain request session.world
  -- what the store adds is the report of the run before it
  have hstored : (Cache.disk dir).load (.ofRequest request) session.world = .ok none →
      ∀ output ran, toolchain.execute request session.world = (.ok output, ran) →
      session.world.disk.Adds
        (Call.Fills toolchain (.disk dir) dir session.world.disk
          ⟨request, session, (runner request session).1, (runner request session).2⟩)
        ((Cache.disk dir).store (.ofRequest request) output.report ran).2.disk := by
    intro hload output ran hrun
    have hstore := DiskCache.adds_store dir request output.report ran.disk
    rw [hrun] at hran
    rw [Disk.locationOf_congr hran.workDir] at hstore
    rw [(Cache.store_disk _ _ _ _).1]
    refine hran.adds.trans (hstore.mono ?_)
    rintro location bytes ⟨hlocation, hbytes⟩
    exact ⟨Cache.lacks_iff.2 hload, ⟨output, congrArg Prod.fst hrun, hbytes⟩, hlocation⟩
  have hserved := Runner.served toolchain (.disk dir) request session
  have hafter : runner request session = Runner.cached toolchain (.disk dir) request session := rfl
  rw [← hafter] at hserved
  generalize hresult : (runner request session).2.world.disk = after at hstored ⊢
  generalize runner request session = result at hserved hresult hstored
  cases hserved with
  | unread failure hload => exact hresult ▸ (Disk.ModifiesOnly.refl _).adds
  | hit report hload => exact hresult ▸ (Disk.ModifiesOnly.refl _).adds
  | failed failure world hload hrun =>
    rw [hrun] at hran
    exact hresult ▸ hran.adds
  | unstored output failure ran world hload hrun hstore =>
    have hadded := hstored hload output ran hrun
    rw [hstore] at hadded
    exact hresult ▸ hadded
  | stored output ran world hload hrun hstore =>
    have hadded := hstored hload output ran hrun
    rw [hstore] at hadded
    exact hresult ▸ hadded

theorem workDir_cached (htoolchain : toolchain.LeavesFiles) (request : Request)
    (session : Session (World τ)) :
    (Runner.cached toolchain (.disk dir) request session).2.world.disk.workDir
      = session.world.disk.workDir := by
  have hleads : World.StaysIn session.world.disk.workDir Disk.Anywhere session.world
      (Runner.cached toolchain (.disk dir) request session).2.world :=
    Runner.cached_staysIn (fun request world _ => (htoolchain request world).of_nowhere)
      (fun request report world hworkDir =>
        (Cache.disk_staysIn dir world.disk request report world rfl).mono fun _ _ => trivial)
      request session
  exact (hleads rfl).workDir

/-- Requests that come one after the other add the entries of those that were run. -/
theorem adds_afterAll (htoolchain : toolchain.LeavesFiles) (requests : List Request)
    {disk : Disk} {session : Session (World τ)}
    (hworkDir : session.world.disk.workDir = disk.workDir) :
    let runner := Runner.cached toolchain (.disk dir)
    session.world.disk.Adds
      (fun l bytes => ∃ call ∈ runner.calls requests session,
        call.Fills toolchain (.disk dir) dir disk l bytes)
      (runner.afterAll requests session).world.disk := by
  intro runner
  -- the entries are named from the working directory, which no request changes
  induction requests generalizing session with
  | nil => exact (Disk.ModifiesOnly.refl _).adds
  | cons request requests ih =>
    have hfirst := adds_cached dir htoolchain request session
    have hrest := ih ((workDir_cached dir htoolchain request session).trans hworkDir)
    refine (hfirst.mono ?_).trans (hrest.mono ?_)
    · rintro l bytes ⟨hlacked, hran, hentry⟩
      rw [Disk.locationOf_congr hworkDir] at hentry
      exact ⟨_, List.mem_cons_self, hlacked, hran, hentry⟩
    · rintro l bytes ⟨call, hcall, hfills⟩
      exact ⟨call, List.mem_cons_of_mem _ hcall, hfills⟩

/-! ## Pages -/

/-- Whether it is rendered or not, a page adds the entries of requests that were run with success,
and no other file. -/
theorem adds_weave (htoolchain : toolchain.LeavesFiles) (options : Options)
    (content : Text) (session : Session (World τ)) :
    let runner := Runner.cached toolchain (.disk dir)
    session.world.disk.Adds
      (fun l bytes => ∃ call ∈ runner.calls (asked options runner content session) session,
        call.Fills toolchain (.disk dir) dir session.world.disk l bytes)
      (weave options runner content session).session.world.disk := by
  intro runner
  rw [session_weave]
  exact adds_afterAll dir htoolchain _ rfl

end

end Weave
