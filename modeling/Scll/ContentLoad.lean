import Scll.ContentCalls
import Scll.LoadAll

/-! # Loading, at a card that takes what it is sent

    A load file arrives as it was in the CAP: the card is told what is coming,
    puts the blocks together in their order and links what they come to. Whether
    the call reports a load is for the card's linker and its memory to say.
-/

namespace Scll

open Cap LengthPrefix Listing Workflow

section load

variable {P : Primitives} {ρ δ : Type} {p : CardProfile P} {I : Inflater δ}
  {inflate : Deflate} (session : ScpSession)

/-! ### One block -/

/-- The number of LOAD commands for so many octets. -/
def blocksFor (len : ℕ) : ℕ := (len + (LOAD_BLOCK_DATA - 1)) / LOAD_BLOCK_DATA

theorem blocksFor_pos {len : ℕ} (h : 0 < len) : ∃ k, blocksFor len = k + 1 := by
  have hblock : LOAD_BLOCK_DATA = 223 := rfl
  refine ⟨blocksFor len - 1, ?_⟩
  unfold blocksFor
  rw [hblock]
  omega

theorem blocksFor_drop {len : ℕ} (h : LOAD_BLOCK_DATA < len) :
    blocksFor len = blocksFor (len - LOAD_BLOCK_DATA) + 1 := by
  have hblock : LOAD_BLOCK_DATA = 223 := rfl
  unfold blocksFor
  rw [hblock] at h ⊢
  omega

theorem loadBlock_eq (number : UInt8) (last : Bool) {chunk : List UInt8}
    (hlen : chunk.length ≤ LOAD_BLOCK_DATA) :
    ofBuild (Capdu.loadBlock number last chunk) =
      .ok (0x84 :: 0xE8 :: (if last then 0x80 else 0x00) :: number ::
        Capdu.tailOctets chunk true) :=
  ofBuild_eq_ok.mpr (Capdu.build_eq_ok.mpr ⟨hlen.trans (by decide), rfl⟩)

/-- A block that is not the last is taken. -/
theorem more_registry {w : World (IdealCard (Registry p)) (IdealBackend P ρ)} {n : ℕ}
    {file : Incoming} {chunk : List UInt8} (hfile : w.transport.app.incoming = some file)
    (hroom : w.backend.channel.RoomFor (n + 1)) (hne : chunk ≠ [])
    (hlen : chunk.length ≤ LOAD_BLOCK_DATA) :
    ∃ w', command session (ofBuild (Capdu.loadBlock file.next false chunk)) requireSw w =
        (.ok (), w') ∧
      w'.transport.app = { w.transport.app with
        incoming := some { file with octets := file.octets ++ chunk, next := file.next + 1 } } ∧
      w'.backend.channel.RoomFor n := by
  obtain ⟨w', hrun, happ, hroom'⟩ := exchange_admitted session hroom 0x84 0xE8 0x00 file.next hne
    hlen true (Registry.perform_more hfile chunk)
  refine ⟨w', ?_, happ, hroom'⟩
  unfold command
  rw [loadBlock_eq file.next false hlen, Prog.bind_ok (Prog.lift_run _ w)]
  exact Prog.bind_ok hrun

/-- The last block is answered by what the file comes to. -/
theorem last_registry {w : World (IdealCard (Registry p)) (IdealBackend P ρ)} {n : ℕ}
    {file : Incoming} {chunk : List UInt8} (hfile : w.transport.app.incoming = some file)
    (hroom : w.backend.channel.RoomFor (n + 1)) (hne : chunk ≠ [])
    (hlen : chunk.length ≤ LOAD_BLOCK_DATA) :
    ∃ w', command session (ofBuild (Capdu.loadBlock file.next true chunk)) requireSw w =
        (requireSw (swOf (p.finish file.aid file.domain (file.octets ++ chunk)
          w.transport.app.content)), w') ∧
      w'.transport.app.content = after w.transport.app.content
        (p.finish file.aid file.domain (file.octets ++ chunk) w.transport.app.content) ∧
      w'.backend.channel.RoomFor n := by
  obtain ⟨reg, hperform, hreg⟩ := Registry.perform_last w.transport.app hfile chunk
  obtain ⟨w', hrun, happ, hroom'⟩ := exchange_admitted session hroom 0x84 0xE8 0x80 file.next hne
    hlen true hperform
  refine ⟨w', ?_, ?_, hroom'⟩
  · unfold command
    rw [loadBlock_eq file.next true hlen, Prog.bind_ok (Prog.lift_run _ w)]
    exact Prog.bind_ok hrun
  · rw [happ]
    exact hreg

/-! ### The loop -/

/-- The blocks of what is left of a stream are put behind those that have come. By
    induction on the rounds, each of which takes one command. -/
theorem loadLoop_registry (blocks : UInt16) (hI : Correct I inflate) {total fuel sent n : ℕ}
    {s : LoadFileDataBlock} {infl : InflateCtx δ} {rest : List UInt8}
    {w : World (IdealCard (Registry p)) (IdealBackend P ρ)} {file : Incoming}
    (hleft : Left I inflate s infl rest true) (hne : rest ≠ [])
    (htotal : sent + rest.length = total) (hfuel : rest.length < fuel)
    (hfile : w.transport.app.incoming = some file)
    (hroom : w.backend.channel.RoomFor (n + blocksFor rest.length)) :
    ∃ r w', loadLoop I session total fuel s infl sent file.next blocks w = (r, w') ∧
      r.map (fun _ => ()) = requireSw (swOf (p.finish file.aid file.domain (file.octets ++ rest)
        w.transport.app.content)) ∧
      w'.transport.app.content = after w.transport.app.content
        (p.finish file.aid file.domain (file.octets ++ rest) w.transport.app.content) ∧
      w'.backend.channel.RoomFor n := by
  -- on the fuel, the card having collected all that was sent before the rest
  induction fuel generalizing s infl rest sent blocks w file with
  | zero => omega
  | succ fuel ih =>
    have hblock : 0 < LOAD_BLOCK_DATA := by decide
    have hpos := List.length_pos_iff.mpr hne
    rcases nextBlock_spec hI hleft LOAD_BLOCK_DATA with ⟨-, hfailed⟩ | ⟨q, hq, hleft', -⟩
    · cases hfailed
    · have hsome : rest.take LOAD_BLOCK_DATA ≠ [] := by
        intro hnil
        have hlen := congrArg List.length hnil
        rw [List.length_take, List.length_nil] at hlen
        omega
      have hchunk : (rest.take LOAD_BLOCK_DATA).length ≤ LOAD_BLOCK_DATA := List.length_take_le ..
      unfold loadLoop
      rw [hq]
      have hlift : (Prog.lift (ofCap (.ok (rest.take LOAD_BLOCK_DATA, q))) :
          Prog (World (IdealCard (Registry p)) (IdealBackend P ρ)) ScllError _) w =
          (.ok (rest.take LOAD_BLOCK_DATA, q), w) := rfl
      rw [Prog.bind_ok hlift]
      obtain ⟨s', infl'⟩ := q
      dsimp only at hleft' ⊢
      rw [if_neg hsome]
      by_cases hlast : rest.length ≤ LOAD_BLOCK_DATA
      · -- all that is left fits into this block
        have hall : rest.take LOAD_BLOCK_DATA = rest := List.take_of_length_le hlast
        rw [hall, decide_eq_true (show sent + rest.length ≥ total by omega)]
        obtain ⟨k, hk⟩ := blocksFor_pos hpos
        rw [hk, ← Nat.add_assoc] at hroom
        obtain ⟨w', hrun, hcontent, hroom'⟩ := last_registry session hfile hroom hne hlast
        cases hsw : requireSw (swOf (p.finish file.aid file.domain (file.octets ++ rest)
            w.transport.app.content)) with
        | ok u =>
          rw [hsw] at hrun
          rw [Prog.bind_ok hrun, if_pos rfl]
          exact ⟨_, w', rfl, rfl, hcontent, hroom'.mono (Nat.le_add_right n k)⟩
        | error e =>
          rw [hsw] at hrun
          rw [Prog.bind_error hrun]
          exact ⟨_, w', rfl, rfl, hcontent, hroom'.mono (Nat.le_add_right n k)⟩
      · -- a full block, and the rest under the next number
        have hfull : (rest.take LOAD_BLOCK_DATA).length = LOAD_BLOCK_DATA := by
          rw [List.length_take]
          omega
        have hdrop : (rest.drop LOAD_BLOCK_DATA).length = rest.length - LOAD_BLOCK_DATA :=
          List.length_drop
        rw [hfull, decide_eq_false (show ¬sent + LOAD_BLOCK_DATA ≥ total by omega)]
        rw [blocksFor_drop (by omega), ← hdrop, ← Nat.add_assoc] at hroom
        obtain ⟨w₁, hrun, happ, hroom₁⟩ := more_registry session hfile hroom hsome hchunk
        rw [Prog.bind_ok hrun, if_neg Bool.false_ne_true]
        have hrest : rest.drop LOAD_BLOCK_DATA ≠ [] := by
          intro hnil
          rw [hnil, List.length_nil] at hdrop
          omega
        have hfile₁ := congrArg Registry.incoming happ
        have hcontent₁ := congrArg Registry.content happ
        dsimp only at hfile₁ hcontent₁
        have htotal₁ : sent + LOAD_BLOCK_DATA + (rest.drop LOAD_BLOCK_DATA).length = total := by
          omega
        obtain ⟨r, w', hloop, hr, hcontent, hroom'⟩ :=
          ih _ hleft' hrest htotal₁ (by omega) hfile₁ hroom₁
        refine ⟨r, w', hloop, ?_, ?_, hroom'⟩
        · rw [hr, hcontent₁, List.append_assoc, List.take_append_drop]
        · rw [hcontent, hcontent₁, List.append_assoc, List.take_append_drop]

/-! ### The whole load -/

/-- The commands of a load: the announcement, and at most 256 blocks. -/
def LOAD_COMMANDS : ℕ := 257

theorem blocksFor_le {len : ℕ} (h : len ≤ MAX_LOAD_BYTES) : blocksFor len ≤ 256 := by
  have hmax : MAX_LOAD_BYTES = 256 * 223 := rfl
  have hblock : LOAD_BLOCK_DATA = 223 := rfl
  unfold blocksFor
  rw [hblock]
  omega

/-- INSTALL [for load] announces the file. -/
theorem announce_registry {w : World (IdealCard (Registry p)) (IdealBackend P ρ)} {n : ℕ}
    (hroom : w.backend.channel.RoomFor (n + 1)) (aid domain : Aid) {hash : List UInt8}
    (hhash : hash.length ≤ HASH_MAX) (outcome : UInt16 → Except ScllError Unit) :
    ∃ w', command session (ofBuild (Capdu.installForLoad aid.bytes domain.bytes hash)) outcome w =
        (outcome (swOf (p.announce aid domain w.transport.app.content)), w') ∧
      w'.transport.app.content = w.transport.app.content ∧ w'.backend.channel.RoomFor n ∧
      ∀ c, p.announce aid domain w.transport.app.content = .ok c →
        w'.transport.app.incoming = some ⟨aid, domain, [], 0⟩ := by
  obtain ⟨a, ha⟩ : ∃ a : Install.LoadArgs, a = ⟨aid.bytes, domain.bytes, hash⟩ := ⟨_, rfl⟩
  -- two AIDs and a hash fit into one block
  have hlength : (lvFields a.fields).length ≤ LOAD_BLOCK_DATA := by
    have haid := aid.valid.2
    have hdomain := domain.valid.2
    have haidMax : AID_MAX = 16 := rfl
    have hhashMax : HASH_MAX = 64 := rfl
    have hblock : LOAD_BLOCK_DATA = 223 := rfl
    rw [a.length_fields, ha]
    unfold Install.LoadArgs.size
    dsimp only
    omega
  have hbuilt : a.build = .ok (0x84 :: 0xE6 :: 0x02 :: 0x00 ::
      Capdu.tailOctets (lvFields a.fields) true) := by
    rw [a.build_eq]
    exact Install.command_eq_ok.mpr ⟨hlength.trans (by decide), rfl⟩
  -- the card reads back the fields that the builder wrote
  have hread : readInstallForLoad (lvFields a.fields) = some (aid, domain) := by
    have hsplit : splitFields 5 (lvFields a.fields) = some a.fields :=
      splitFields_lvFields fun f hf =>
        (length_le_lvFields hf).trans (hlength.trans (by decide))
    unfold readInstallForLoad
    rw [hsplit, ha]
    dsimp only [Install.LoadArgs.fields]
    rw [ofOctets?_bytes, ofOctets?_bytes]
    rfl
  have hne : lvFields a.fields ≠ [] := by
    simp [Install.LoadArgs.fields, lvFields, lvField]
  obtain ⟨reg, hperform, hcontent, hincoming⟩ :=
    Registry.perform_announce w.transport.app hread
  obtain ⟨w', hrun, happ, hroom'⟩ :=
    exchange_admitted session hroom 0x84 0xE6 0x02 0x00 hne hlength true hperform
  have hbuilt' : ofBuild (Capdu.installForLoad aid.bytes domain.bytes hash) =
      .ok (0x84 :: 0xE6 :: 0x02 :: 0x00 :: Capdu.tailOctets (lvFields a.fields) true) := by
    rw [ha] at hbuilt ⊢
    exact ofBuild_eq_ok.mpr hbuilt
  refine ⟨w', ?_, ?_, hroom', ?_⟩
  · unfold command
    rw [hbuilt', Prog.bind_ok (Prog.lift_run _ w)]
    exact Prog.bind_ok hrun
  · rw [happ]
    exact hcontent
  · intro c hc
    rw [happ]
    exact hincoming c hc

/-- A CAP within the budget has components of the lengths it declares. -/
def Unpacks (I : Inflater δ) (inflate : Deflate) (zip : List UInt8)
    (infl : InflateCtx δ) : Prop :=
  ∀ cap infl', parse I zip infl = .ok (cap, infl') → cap.lfdb.len ≤ MAX_LOAD_BYTES →
    Loadable inflate cap.zip cap.locs ∧ (content inflate cap.zip cap.locs).2 = true

/-- What is streamed of such a CAP is its load file. -/
theorem stream_of_unpacks {zip : List UInt8} {infl infl' : InflateCtx δ} {cap : CapFile}
    (h : Unpacks I inflate zip infl) (hparse : parse I zip infl = .ok (cap, infl'))
    (hlen : cap.lfdb.len ≤ MAX_LOAD_BYTES) :
    Left I inflate cap.lfdb (infl'.reset I) (loadFile inflate cap) true ∧
      (loadFile inflate cap).length = cap.lfdb.len := by
  obtain ⟨hloadable, hok⟩ := h cap infl' hparse hlen
  obtain ⟨-, hslots⟩ := parse_ok hparse
  have hsmall : contentLen cap.locs < 2 ^ 24 := by
    have hsum : cap.lfdb.len = (lfdbHeader (contentLen cap.locs)).length + contentLen cap.locs :=
      rfl
    have hmax : MAX_LOAD_BYTES < 2 ^ 24 := by decide
    omega
  obtain ⟨hstream, hlength⟩ := stream_eq_loadFile hloadable hok hsmall
  have hleft := left_lfdb (I := I) hslots hloadable (infl'.reset I)
  rw [hok, hstream] at hleft
  rw [hstream] at hlength
  exact ⟨hleft, hlength⟩

theorem loadPackageReport_ok (target : Aid) {zip hash : List UInt8} (hhash : hash.length ≤ HASH_MAX)
    (cap : CapFile) (blocks : UInt16) :
    ∃ report, loadPackageReport ⟨target.bytes, zip, hash⟩ cap blocks = .ok report := by
  have hcopied : copyBounded HASH_MAX hash = .ok hash :=
    extend_eq_ok.mpr ⟨rfl, by simpa using hhash⟩
  unfold loadPackageReport
  dsimp only
  rw [hcopied, Aid.new_of_valid target.valid]
  exact ⟨_, rfl⟩

theorem len_of_checkBudget {cap : CapFile} {u : Unit} (h : checkBudget cap = .ok u) :
    cap.lfdb.len ≤ MAX_LOAD_BYTES := by
  unfold checkBudget at h
  split at h
  · cases h
  · omega

/-- The content is held, and this file is on its way. -/
structure Announced (p : CardProfile P) (file : Incoming) (n : ℕ)
    (w : World (IdealCard (Registry p)) (IdealBackend P ρ)) (c : Content p.isd) : Prop where
  holding : Holding p n w c
  incoming : w.transport.app.incoming = some file

/-- The blocks of an announced file. -/
theorem blocks_show (hI : Correct I inflate) {domain : Aid}
    {infl : InflateCtx δ} {cap : CapFile}
    (hleft : Left I inflate cap.lfdb infl (loadFile inflate cap) true)
    (hlength : (loadFile inflate cap).length = cap.lfdb.len) (hlen : cap.lfdb.len ≤ MAX_LOAD_BYTES)
    (n : ℕ) :
    Prog.Shows (fun _ => ()) (Announced (ρ := ρ) p ⟨cap.packageAid, domain, [], 0⟩ (n + 256))
      (Holding p n)
      (loadLoop I session cap.lfdb.len (cap.lfdb.len + 1) cap.lfdb infl 0 0 0)
      (change explainLoad (p.finish cap.packageAid domain (loadFile inflate cap))) := by
  intro w c hw
  have hroom : w.backend.channel.RoomFor (n + blocksFor (loadFile inflate cap).length) := by
    apply hw.holding.room.mono
    rw [hlength]
    exact Nat.add_le_add_left (blocksFor_le hlen) n
  have htotal : 0 + (loadFile inflate cap).length = cap.lfdb.len := by omega
  have hfuel : (loadFile inflate cap).length < cap.lfdb.len + 1 := by omega
  obtain ⟨r, w', hrun, hr, hcontent, hroom'⟩ := loadLoop_registry session 0 hI hleft
    (List.cons_ne_nil _ _) htotal hfuel hw.incoming hroom
  dsimp only at hrun hr hcontent
  rw [hw.holding.content, List.nil_append] at hr hcontent
  rw [hrun]
  refine ⟨?_, hcontent, hroom'⟩
  rw [hr]
  exact outcome_swOf explains_load _

/-- Loading a package is adding its load file. -/
theorem loadPackage_shows (hI : Correct I inflate) (target : Aid)
    {zip hash : List UInt8} (infl : InflateCtx δ) (hunpacks : Unpacks I inflate zip infl)
    (hhash : hash.length ≤ HASH_MAX) (n : ℕ) :
    Prog.Shows showsDone (Holding (ρ := ρ) p (n + LOAD_COMMANDS)) (Holding p n)
      (loadPackage I session ⟨target.bytes, zip, hash⟩ infl)
      (ContentCall.spec p I inflate (.loadPackage target zip hash infl)) := by
  have hfewer : n ≤ n + LOAD_COMMANDS := Nat.le_add_right n _
  intro w c hw
  unfold loadPackage ContentCall.spec
  dsimp only
  -- what fails before the announcement has sent nothing
  cases hparse : parse I zip infl with
  | error e => exact ⟨rfl, Holding.mono hfewer w c hw⟩
  | ok q =>
    obtain ⟨cap, infl'⟩ := q
    have hlift : ofCap (.ok (cap, infl')) = .ok (cap, infl') := rfl
    rw [hlift, Prog.lift_ok_bind, Prog.lift_ok_bind]
    dsimp only
    cases hbudget : checkBudget cap with
    | error e => exact ⟨rfl, Holding.mono hfewer w c hw⟩
    | ok u =>
      rw [Prog.lift_ok_bind, Prog.lift_ok_bind]
      obtain ⟨hleft, hlength⟩ := stream_of_unpacks hunpacks hparse (len_of_checkBudget hbudget)
      have hroom : w.backend.channel.RoomFor (n + 256 + 1) := hw.room
      obtain ⟨w₁, hannounced, hcontent₁, hroom₁, hincoming⟩ :=
        announce_registry session hroom cap.packageAid target hhash
          (installOutcome .residentSdNotFound .packageAidExists)
      rw [outcome_swOf (explains_install .residentSdNotFound .packageAidExists)] at hannounced
      rw [hw.content] at hannounced hcontent₁ hincoming
      -- the card answers the announcement, and only then blocks are sent
      cases hannounce : p.announce cap.packageAid target c with
      | error r =>
        have hrefused : change (explainInstall .residentSdNotFound .packageAidExists)
            (p.announce cap.packageAid target) c =
            (.error (explainInstall .residentSdNotFound .packageAidExists r), c) := by
          unfold change
          rw [hannounce]
          rfl
        rw [hannounce] at hannounced
        rw [Prog.bind_error hannounced, Prog.bind_error hrefused]
        exact ⟨rfl, hcontent₁, hroom₁.mono (Nat.le_add_right n 256)⟩
      | ok c' =>
        have hsame := p.announce_ok hannounce
        have hpermitted : change (explainInstall .residentSdNotFound .packageAidExists)
            (p.announce cap.packageAid target) c = (.ok (), c) := by
          unfold change
          rw [hannounce, hsame]
          rfl
        rw [hannounce] at hannounced
        rw [Prog.bind_ok hannounced, Prog.bind_ok hpermitted]
        refine (Prog.Shows.seq (blocks_show session hI hleft hlength
          (len_of_checkBudget hbudget) n) ?_ fun _ _ h => h) w₁ c
          ⟨⟨hcontent₁, hroom₁⟩, hincoming c' hannounce⟩
        intro blocks
        obtain ⟨report, hreport⟩ := loadPackageReport_ok target hhash cap blocks
        exact .lift hreport

end load

end Scll
