import Scll.Cap.Sample
import Scll.TestSupport
import Scll.Workflow.Load

/-! # Loading all of a package or none

    A package load that succeeds is to have sent the whole load file, in LOAD
    commands numbered from zero, the last of which says so. It does when every
    component of the CAP comes to its declared length, up to a first one, if
    any, that cannot be decompressed. The declared lengths are never checked,
    and a component that stops short of its own ends the load without an error.
-/

namespace Scll

namespace Workflow

open Cap

/-! ### LOAD commands -/

/-- The commands with the octets of a load file from block `k` on. -/
inductive Loads : ℕ → List UInt8 → List Capdu → Prop where
  | last {k : ℕ} {octets : List UInt8} {c : Capdu} (nonempty : octets ≠ [])
      (built : Capdu.loadBlock (UInt8.ofNat k) true octets = .ok c) : Loads k octets [c]
  | more {k : ℕ} {chunk octets : List UInt8} {c : Capdu} {cs : List Capdu}
      (full : chunk.length = LOAD_BLOCK_DATA)
      (built : Capdu.loadBlock (UInt8.ofNat k) false chunk = .ok c)
      (rest : Loads (k + 1) octets cs) : Loads k (chunk ++ octets) (c :: cs)

/-- What is to be sent of a CAP. -/
structure LoadsAll (inflate : Deflate) (cap : CapFile)
    (loads : List Capdu) : Prop where
  /-- Every component can be read. -/
  decoded : (content inflate cap.zip cap.locs).2 = true
  octets : (loads.map Capdu.data).flatten = loadFile inflate cap
  few : loads.length ≤ 256
  numbered : ∀ i c, loads[i]? = some c → Capdu.p2 c = UInt8.ofNat i
  /-- The final block and no other is marked. -/
  marked : ∀ i c, loads[i]? = some c → Capdu.p1 c = if i + 1 = loads.length then 0x80 else 0x00

theorem p1_p2_of_build {cla ins p1 p2 : UInt8} {data apdu : List UInt8} {le : Bool}
    (h : Capdu.build cla ins p1 p2 data le = .ok apdu) :
    Capdu.p1 apdu = p1 ∧ Capdu.p2 apdu = p2 := by
  rw [(Capdu.build_eq_ok.mp h).2]
  exact ⟨rfl, rfl⟩

namespace Loads

variable {k : ℕ} {octets : List UInt8} {cs : List Capdu}

theorem ne_nil (h : Loads k octets cs) : cs ≠ [] := by
  cases h <;> simp

theorem data_eq (h : Loads k octets cs) : (cs.map Capdu.data).flatten = octets := by
  induction h with
  | last _ hbuilt => simp [Capdu.data_of_build hbuilt]
  | more _ hbuilt _ ih => simp [Capdu.data_of_build hbuilt, ih]

theorem ins_eq (h : Loads k octets cs) : ∀ c ∈ cs, Capdu.ins c = Capdu.INS_LOAD := by
  induction h with
  | last _ hbuilt =>
    intro c hc
    rw [List.mem_singleton.mp hc]
    exact Capdu.ins_of_build hbuilt
  | more _ hbuilt _ ih =>
    rw [List.forall_mem_cons]
    exact ⟨Capdu.ins_of_build hbuilt, ih⟩

/-- Every block but the last is full. -/
theorem length_lt (h : Loads k octets cs) :
    (cs.length - 1) * LOAD_BLOCK_DATA < octets.length := by
  induction h with
  | last hnonempty _ =>
    simpa using List.length_pos_iff.mpr hnonempty
  | @more k chunk octets c cs hfull _ hrest ih =>
    have hpos := List.length_pos_iff.mpr hrest.ne_nil
    obtain ⟨n, hn⟩ : ∃ n, cs.length = n + 1 := ⟨cs.length - 1, by omega⟩
    rw [List.length_append, hfull, List.length_cons, hn]
    rw [hn] at ih
    simp only [Nat.add_sub_cancel] at ih ⊢
    rw [Nat.add_mul]
    omega

theorem header_eq (h : Loads k octets cs) (i : ℕ) (c : Capdu) (hc : cs[i]? = some c) :
    Capdu.p2 c = UInt8.ofNat (k + i) ∧
      Capdu.p1 c = if i + 1 = cs.length then 0x80 else 0x00 := by
  induction h generalizing i with
  | last _ hbuilt =>
    rcases i with _ | i
    · obtain rfl := Option.some.inj hc
      exact (p1_p2_of_build hbuilt).symm
    · simp at hc
  | more _ hbuilt hrest ih =>
    rcases i with _ | i
    · obtain rfl := Option.some.inj hc
      obtain ⟨hp1, hp2⟩ := p1_p2_of_build hbuilt
      refine ⟨hp2, ?_⟩
      rw [hp1, if_neg Bool.false_ne_true, if_neg]
      have := List.length_pos_iff.mpr hrest.ne_nil
      rw [List.length_cons]
      omega
    · obtain ⟨hp2, hp1⟩ := ih i hc
      rw [hp2, hp1, Nat.add_right_comm, Nat.add_assoc]
      refine ⟨rfl, ?_⟩
      simp

end Loads

/-! ### The loop -/

section load

variable {τ β δ : Type} [Transport τ] [Scp03Backend β] [Scp02Backend β] {I : Inflater δ}
  {inflate : Deflate}

/-- A command that succeeds was built and sent. -/
theorem command_eq_ok {session : ScpSession} {capdu : Except ScllError Capdu}
    {outcome : UInt16 → Except ScllError Unit} {w w' : World τ β}
    (h : command session capdu outcome w = (.ok (), w')) :
    ∃ c, capdu = .ok c ∧ w'.sent = w.sent ++ [c] := by
  obtain ⟨c, w₁, hlift, h⟩ := Prog.bind_eq_ok.mp h
  obtain ⟨hbuilt, rfl⟩ := Prog.lift_eq_ok.mp hlift
  obtain ⟨a, w₂, hexchanged, h⟩ := Prog.bind_eq_ok.mp h
  obtain ⟨-, rfl⟩ := Prog.lift_eq_ok.mp h
  exact ⟨c, hbuilt, (transmitInSession_sent hexchanged).1⟩

theorem ofCap_eq_ok {α : Type} {x : Except CapError α} {a : α} :
    ofCap x = .ok a ↔ x = .ok a := mapError_eq_ok

theorem ins_installForLoad {packageAid sdAid hash : List UInt8} {c : Capdu}
    (h : Capdu.installForLoad packageAid sdAid hash = .ok c) :
    Capdu.ins c = Capdu.INS_INSTALL := by
  obtain ⟨_, -, h⟩ := bind_eq_ok.mp h
  obtain ⟨_, -, h⟩ := bind_eq_ok.mp h
  obtain ⟨_, -, h⟩ := bind_eq_ok.mp h
  obtain ⟨_, -, h⟩ := bind_eq_ok.mp h
  obtain ⟨_, -, h⟩ := bind_eq_ok.mp h
  exact Capdu.ins_of_build h

theorem length_lfdbHeader_pos (n : ℕ) : 0 < (lfdbHeader n).length := by
  unfold lfdbHeader
  split_ifs <;> exact Nat.succ_pos _

/-- The loop, over what is left of the stream: when it succeeds, nothing was
    missing, and all of it was sent. -/
theorem loadLoop_ok (hI : Correct I inflate) {session : ScpSession} {total fuel : ℕ}
    {s : LoadFileDataBlock} {infl : InflateCtx δ} {rest : List UInt8} {ok : Bool} {sent k : ℕ}
    {blocks n : UInt16} {w w' : World τ β} (hleft : Left I inflate s infl rest ok)
    (hsent : sent < total)
    (htotal : if ok then sent + rest.length = total else sent + rest.length < total)
    (hfuel : rest.length < fuel)
    (h : loadLoop I session total fuel s infl sent (UInt8.ofNat k) blocks w = (.ok n, w')) :
    ok = true ∧ ∃ cs, Loads k rest cs ∧ w'.sent = w.sent ++ cs := by
  -- on the fuel, with the rest of the stream and the number of the next block
  induction fuel generalizing s infl rest sent k blocks w with
  | zero => omega
  | succ fuel ih =>
    unfold loadLoop at h
    obtain ⟨⟨out, s', infl'⟩, w₁, hlift, h⟩ := Prog.bind_eq_ok.mp h
    obtain ⟨hblock, rfl⟩ := Prog.lift_eq_ok.mp hlift
    rcases nextBlock_spec hI hleft LOAD_BLOCK_DATA with
      ⟨⟨e, he⟩, -⟩ | ⟨p, hp, hleft', hshort⟩
    · rw [he] at hblock
      cases hblock
    · rw [hp] at hblock
      obtain ⟨rfl, rfl⟩ := Prod.mk.inj (Except.ok.inj hblock)
      dsimp only at h hleft'
      have hpos : 0 < LOAD_BLOCK_DATA := by decide
      have hlen : (rest.take LOAD_BLOCK_DATA).length = min LOAD_BLOCK_DATA rest.length :=
        List.length_take
      -- a stream that fails does so before it comes to an end
      have hsome : ¬rest.take LOAD_BLOCK_DATA = [] := by
        intro hnil
        rw [hnil, List.length_nil] at hlen
        split at htotal
        · omega
        · next hno =>
          have := hshort (Bool.eq_false_iff.mpr hno)
          omega
      rw [if_neg hsome] at h
      obtain ⟨_, w₂, hcommand, h⟩ := Prog.bind_eq_ok.mp h
      obtain ⟨c, hbuilt, hlog⟩ := command_eq_ok hcommand
      rw [ofBuild_eq_ok] at hbuilt
      by_cases hlast : sent + (rest.take LOAD_BLOCK_DATA).length ≥ total
      · -- the count is reached: this block is all that was left
        rw [decide_eq_true hlast] at h hbuilt
        rw [if_pos rfl] at h
        obtain ⟨-, rfl⟩ := Prod.mk.inj h
        have hok : ok = true := by
          by_contra hno
          rw [if_neg hno] at htotal
          omega
        rw [if_pos hok] at htotal
        have hall : rest.take LOAD_BLOCK_DATA = rest := List.take_of_length_le (by omega)
        rw [hall] at hbuilt hsome
        exact ⟨hok, [c], .last hsome hbuilt, hlog⟩
      · -- a full block, and the loop goes on with the next number
        rw [decide_eq_false hlast] at h hbuilt
        rw [if_neg Bool.false_ne_true] at h
        have hfull : (rest.take LOAD_BLOCK_DATA).length = LOAD_BLOCK_DATA := by
          split at htotal
          · omega
          · next hno =>
            have := hshort (Bool.eq_false_iff.mpr hno)
            omega
        have hdrop : (rest.drop LOAD_BLOCK_DATA).length = rest.length - LOAD_BLOCK_DATA :=
          List.length_drop
        have hnext : UInt8.ofNat k + 1 = UInt8.ofNat (k + 1) := by
          rw [UInt8.ofNat_add]
          rfl
        rw [hnext] at h
        have hsplit : sent + (rest.take LOAD_BLOCK_DATA).length +
            (rest.drop LOAD_BLOCK_DATA).length = sent + rest.length := by omega
        obtain ⟨hok, cs, hloads, hlog'⟩ := ih hleft' (by omega)
          (by rwa [hsplit]) (by omega) h
        refine ⟨hok, c :: cs, ?_, ?_⟩
        · have := Loads.more hfull hbuilt hloads
          rwa [List.take_append_drop] at this
        · rw [hlog', hlog, List.append_assoc, List.singleton_append]

/-! ### The whole load -/

/-- The CAP is not parsed or not within the budget, or INSTALL cannot be built, or
    the report cannot hold the arguments; or the components come to their declared
    lengths, up to a first one that cannot be decompressed. -/
def StreamsExactly (I : Inflater δ) (inflate : Deflate) (args : LoadPackageArgs)
    (infl : InflateCtx δ) : Prop :=
  ∀ cap infl', parse I args.capZip infl = .ok (cap, infl') → cap.lfdb.len ≤ MAX_LOAD_BYTES →
    (Capdu.installForLoad cap.packageAid.bytes args.targetSdAid args.lfdbHash).isOk →
      args.lfdbHash.length ≤ HASH_MAX → AidLength args.targetSdAid →
        Loadable inflate cap.zip cap.locs

/-- What a load that succeeds is to have sent. -/
def SentAll (I : Inflater δ) (inflate : Deflate) (zip : List UInt8)
    (infl : InflateCtx δ) (w w' : World τ β) : Prop :=
  ∃ cap infl' cs, parse I zip infl = .ok (cap, infl') ∧ w'.sent = w.sent ++ cs ∧
    LoadsAll inflate cap (cs.filter fun c => Capdu.ins c == Capdu.INS_LOAD)

/-- For every session, card and world: a load that succeeds has sent all of the
    load file, when the components of the CAP come to their declared lengths, up
    to a first one that cannot be decompressed. -/
theorem load_sends_all (hI : Correct I inflate) {args : LoadPackageArgs} {infl : InflateCtx δ}
    (hcap : StreamsExactly I inflate args infl) {session : ScpSession}
    {report : Report LoadPackageParams} {w w' : World τ β}
    (h : loadPackage I session args infl w = (.ok report, w')) :
    SentAll I inflate args.capZip infl w w' := by
  unfold loadPackage at h
  obtain ⟨⟨cap, infl₁⟩, w₀, hlift, h⟩ := Prog.bind_eq_ok.mp h
  obtain ⟨hparse, rfl⟩ := Prog.lift_eq_ok.mp hlift
  dsimp only at h
  obtain ⟨_, w₁, hlift₁, h⟩ := Prog.bind_eq_ok.mp h
  obtain ⟨hbudget, rfl⟩ := Prog.lift_eq_ok.mp hlift₁
  obtain ⟨_, w₂, hinstall, h⟩ := Prog.bind_eq_ok.mp h
  obtain ⟨blocks, w₃, hloop, h⟩ := Prog.bind_eq_ok.mp h
  obtain ⟨hreport, rfl⟩ := Prog.lift_eq_ok.mp h
  have hparse := ofCap_eq_ok.mp hparse
  have hlen : cap.lfdb.len ≤ MAX_LOAD_BYTES := by
    unfold checkBudget at hbudget
    split at hbudget
    · cases hbudget
    · omega
  -- a load that succeeds got past all of its own checks
  obtain ⟨install, hbuilt, hlog'⟩ := command_eq_ok hinstall
  have hinstallBuilt := ofBuild_eq_ok.mp hbuilt
  obtain ⟨hhash, haid⟩ := loadPackageReport_isOk.mp (isOk_iff.mpr ⟨_, hreport⟩)
  have hloadable := hcap cap infl₁ hparse hlen (isOk_iff.mpr ⟨_, hinstallBuilt⟩) hhash haid
  obtain ⟨-, hslots⟩ := parse_ok hparse
  have htotal := length_stream hloadable
  have hpos : 0 < cap.lfdb.len := by
    have : cap.lfdb.len = (lfdbHeader (contentLen cap.locs)).length + contentLen cap.locs := rfl
    have := length_lfdbHeader_pos (contentLen cap.locs)
    omega
  -- the loop starts at block zero, with all of the stream to come
  obtain ⟨hok, cs, hloads, hlog⟩ := loadLoop_ok (k := 0) hI
    (left_lfdb hslots hloadable (infl₁.reset I)) hpos
    (by rwa [Nat.zero_add])
    (by split at htotal <;> omega) hloop
  have hsmall : contentLen cap.locs < 2 ^ 24 := by
    have : cap.lfdb.len = (lfdbHeader (contentLen cap.locs)).length + contentLen cap.locs := rfl
    have : MAX_LOAD_BYTES < 2 ^ 24 := by decide
    omega
  obtain ⟨hstream, hlength⟩ := stream_eq_loadFile hloadable hok hsmall
  have hinstallIns := ins_installForLoad hinstallBuilt
  -- INSTALL is the only other command, so the filter keeps the blocks
  have hfilter : (install :: cs).filter (fun c => Capdu.ins c == Capdu.INS_LOAD) = cs := by
    rw [List.filter_cons_of_neg (by rw [hinstallIns]; decide)]
    apply List.filter_eq_self.mpr
    intro c hc
    rw [hloads.ins_eq c hc]
    rfl
  refine ⟨cap, infl₁, install :: cs, hparse, ?_, ?_⟩
  · rw [hlog, hlog', List.append_assoc, List.singleton_append]
  · rw [hfilter]
    refine ⟨hok, ?_, ?_, ?_, ?_⟩
    · rw [hloads.data_eq, hstream]
    -- the budget keeps the number of blocks in one octet
    · have := hloads.length_lt
      rw [hlength] at this
      have hmax : MAX_LOAD_BYTES = 256 * LOAD_BLOCK_DATA := rfl
      have hdata : 0 < LOAD_BLOCK_DATA := by decide
      by_contra hmany
      have : 256 * LOAD_BLOCK_DATA ≤ (cs.length - 1) * LOAD_BLOCK_DATA :=
        Nat.mul_le_mul_right _ (by omega)
      omega
    · intro i c hc
      rw [(hloads.header_eq i c hc).1, Nat.zero_add]
    · intro i c hc
      exact (hloads.header_eq i c hc).2

end load

/-! ### CAPs on a card that accepts everything -/

def sampleLoad (zip : List UInt8) : LoadPackageArgs := ⟨[0xA0, 0x00, 0x00, 0x01, 0x51], zip, []⟩

/-- The next `n` commands are answered with `9000`. -/
def accepting (n : ℕ) : World Script StubBackend :=
  ⟨⟨List.replicate n (Rapdu.ofAnswer [] SW_OK)⟩, StubBackend.new, []⟩

def loadSample (zip : List UInt8) (n : ℕ) :
    Except ScllError (Report LoadPackageParams) × World Script StubBackend :=
  loadPackage storedInflater stubSession (sampleLoad zip) (InflateCtx.new storedInflater)
    (accepting n)

/-- Three components, two of them DEFLATE, that take two LOAD commands. -/
def twoBlockCap : List UInt8 :=
  zipOf
    [⟨"p/javacard/Method.cap", METHOD_DEFLATE, 240,
        [0x01, 0xF0, 0x00, 0x0F, 0xFF] ++ List.replicate 240 0x7A⟩,
      ⟨"p/javacard/Directory.cap", METHOD_DEFLATE, 3,
        [0x01, 0x03, 0x00, 0xFC, 0xFF, 0x02, 0x00, 0x1F]⟩,
      ⟨"p/javacard/Header.cap", METHOD_STORED, 18, headerOctets⟩]

def twoBlockLocs : Locs :=
  [some ⟨METHOD_STORED, 409, 18, 18⟩, some ⟨METHOD_DEFLATE, 350, 8, 3⟩, none, none, none,
    some ⟨METHOD_DEFLATE, 51, 245, 240⟩, none, none, none, none, none]

/-- Its components come to the lengths they declare. -/
theorem loadable_twoBlockCap {cap : CapFile} {infl : InflateCtx (Option ℕ)}
    (h : parse storedInflater twoBlockCap (InflateCtx.new storedInflater) = .ok (cap, infl)) :
    Loadable inflateStored cap.zip cap.locs ∧
      (content inflateStored cap.zip cap.locs).2 = true := by
  obtain ⟨hzip, -⟩ := parse_ok h
  have hlocs : (parse storedInflater twoBlockCap (InflateCtx.new storedInflater)).map (·.1.locs) =
      .ok twoBlockLocs := by decide +kernel
  rw [h] at hlocs
  have hlocs : cap.locs = twoBlockLocs := Except.ok.inj hlocs
  have hexact : ∀ loc ∈ twoBlockLocs.filterMap id, Exact inflateStored twoBlockCap loc := by
    unfold Exact
    decide +kernel
  rw [hzip, hlocs]
  exact loadable_of_exact hexact

theorem load_sends_all_two_blocks : ∃ report w', loadSample twoBlockCap 3 = (.ok report, w') ∧
    w'.sent.length = 3 ∧
    SentAll storedInflater inflateStored twoBlockCap (InflateCtx.new storedInflater)
      (accepting 3) w' := by
  have hran : (loadSample twoBlockCap 3).1.isOk = true ∧
      (loadSample twoBlockCap 3).2.sent.length = 3 := by decide +kernel
  have hexactly : StreamsExactly storedInflater inflateStored (sampleLoad twoBlockCap)
      (InflateCtx.new storedInflater) :=
    fun _ _ hparse _ _ _ _ => (loadable_twoBlockCap hparse).1
  cases hrun : loadSample twoBlockCap 3 with
  | mk result w' =>
    rw [hrun] at hran
    obtain ⟨hok, hthree⟩ := hran
    cases result with
    | error e => cases hok
    | ok report =>
      exact ⟨report, w', rfl, hthree, load_sends_all storedInflater_correct hexactly hrun⟩

/-! ### A component that stops short -/

/-- A component of 18 octets that declares more. -/
def shortCap : List UInt8 := zipOf [⟨"Header.cap", METHOD_STORED, 1000, headerOctets⟩]

/-- Its load ends without a last block and without an error. -/
theorem short_component_ends_load :
    ¬∀ (args : LoadPackageArgs) (infl : InflateCtx (Option ℕ)) (session : ScpSession)
      (report : Report LoadPackageParams) (w w' : World Script StubBackend),
      loadPackage storedInflater session args infl w = (.ok report, w') →
      SentAll storedInflater inflateStored args.capZip infl w w' := by
  intro hall
  have hok : (loadSample shortCap 2).1.isOk = true := by decide +kernel
  have hmarks : ((loadSample shortCap 2).2.sent.filter fun c => Capdu.ins c == Capdu.INS_LOAD).map
      Capdu.p1 = [0x00] := by decide +kernel
  cases hrun : loadSample shortCap 2 with
  | mk result w' =>
    rw [hrun] at hok hmarks
    cases result with
    | error e => cases hok
    | ok report =>
      obtain ⟨cap, _, cs, -, hlog, hloads⟩ := hall _ _ _ report _ w' hrun
      dsimp only at hmarks
      rw [hlog, accepting, List.nil_append] at hmarks
      obtain ⟨c, hc, hp1⟩ := List.map_eq_singleton_iff.mp hmarks
      have := hloads.marked 0 c (by rw [hc]; rfl)
      rw [hc, hp1, List.length_singleton] at this
      exact absurd this (by decide)

end Workflow

end Scll
