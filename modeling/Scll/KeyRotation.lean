import Scll.Card.KeyRing
import Scll.Visits

/-! # Key rotation

    A keyset is rotated by adding the new version, opening on it and deleting the
    version it supersedes. Whatever the protocol and the keys, a chain of
    rotations between a host and an honest Security Domain completes: the table
    of the card ends with the last keyset in place of the first, the last keyset
    opens a channel and no version that was deleted does.
-/

namespace Scll

open PutKey Workflow

variable {P : Primitives} {ρ : Type}

/-! ### What the host holds -/

/-- Where the host keeps a keyset, and the version it is under. -/
structure HeldKeyset where
  keys : SdKeys
  kind : KeyKind
  kvn : UInt8

namespace HeldKeyset

/-- As the new keys of a PUT KEY. -/
def newKeys (held : HeldKeyset) : NewKeyset :=
  ⟨held.keys.enc, held.keys.mac, held.keys.dek, held.kind⟩

/-- An open under this keyset. -/
def openArgs (held : HeldKeyset) (args : OpenScpArgs) : OpenScpArgs :=
  { args with sdKeys := held.keys, kvn := held.kvn }

/-- The handles hold the keys. -/
structure Holds (st : BackendState ρ) (held : HeldKeyset) (set : SdKeyset) : Prop where
  enc : st.keys.get held.keys.enc.index.toNat = some set.enc
  mac : st.keys.get held.keys.mac.index.toNat = some set.mac
  dek : st.keys.get held.keys.dek.index.toNat = some set.dek
  kind : set.enc.kind = held.kind

theorem Holds.congr {st st' : BackendState ρ} {held : HeldKeyset} {set : SdKeyset}
    (h : Holds st held set) (hkeys : st'.keys = st.keys) : Holds st' held set := by
  obtain ⟨henc, hmac, hdek, hkind⟩ := h
  rw [← hkeys] at henc hmac hdek
  exact ⟨henc, hmac, hdek, hkind⟩

theorem Holds.live {st : BackendState ρ} {held : HeldKeyset} {set : SdKeyset}
    {protocol : ScpProtocol} (h : Holds st held set) (hsuits : Suits protocol set.enc.kind) :
    LiveKeyset protocol held.newKeys st set.enc set.mac set.dek where
  getEnc := h.enc
  getMac := h.mac
  getDek := h.dek
  kindEnc := h.kind
  kindMac := set.kindMac.trans h.kind
  kindDek := set.kindDek.trans h.kind
  suits := by
    show Suits protocol held.kind
    rw [← h.kind]
    exact hsuits

end HeldKeyset

/-! ### What an open meets -/

/-- The variant that is selected is the one of the Security Domain. -/
def Offers (args : OpenScpArgs) (fci : List UInt8) : HonestDomain P → Prop
  | .scp03 sd => selectVariant args.advertised args.forceScp = some (.scp03 sd.iParam) ∧
      Scp03.iSupported sd.iParam = true ∧ Reveals fci args.targetAid sd.aid
  | .scp02 _ => selectVariant args.advertised args.forceScp = some (.scp02 0x55)

/-- What the opens of one Security Domain have in common. -/
structure Suited (args : OpenScpArgs) (front : HonestCard (HonestDomain P))
    (blank : HonestDomain P) : Prop where
  target : AidLength args.targetAid
  accepts : front.accepts args.targetAid = true
  level : args.requestedLevel &&& 0x01 ≠ 0
  offers : Offers args front.fci blank

/-- Keys of the right kind go into the Security Domain. -/
theorem withKeyset_of_suits {blank : HonestDomain P} {set : SdKeyset} (kvn : UInt8)
    (hsuits : Suits blank.protocol set.enc.kind) :
    ∃ sd, blank.withKeyset kvn set = some sd ∧ sd.protocol = blank.protocol := by
  cases blank with
  | scp03 sd => exact ⟨_, dif_pos hsuits, rfl⟩
  | scp02 sd => exact ⟨_, dif_pos hsuits, rfl⟩

theorem suits_of_withKeyset {blank sd : HonestDomain P} {set : SdKeyset} {kvn : UInt8}
    (h : blank.withKeyset kvn set = some sd) : Suits blank.protocol set.enc.kind := by
  cases blank with
  | scp03 blank =>
    unfold HonestDomain.withKeyset at h
    dsimp only at h
    split at h
    · next hsuits => exact hsuits
    · cases h
  | scp02 blank =>
    unfold HonestDomain.withKeyset at h
    dsimp only at h
    split at h
    · next hsuits => exact hsuits
    · cases h

/-- An open under a keyset that host and card hold is met. -/
theorem meets_of_held {args : OpenScpArgs} {front : HonestCard (HonestDomain P)}
    {st : BackendState ρ} {held : HeldKeyset} {set : SdKeyset} {blank sd : HonestDomain P}
    (hsuited : Suited args front blank) (hsd : blank.withKeyset held.kvn set = some sd)
    (hholds : held.Holds st set) (hfree : FreeSlot blank.protocol st) :
    Meets (held.openArgs args) (front.setDomain (SecurityDomain.forget sd)) st := by
  have hsuits := suits_of_withKeyset hsd
  refine ⟨hsuited.target, hsuited.accepts, hsuited.level, ?_⟩
  have hoffers := hsuited.offers
  cases blank with
  | scp03 blank =>
    obtain ⟨hvariant, hsupported, hreveals⟩ := hoffers
    obtain rfl : _ = sd := Option.some.inj ((dif_pos hsuits).symm.trans hsd)
    obtain ⟨_, henc⟩ := readAesKey_of_suits hholds.enc hsuits
    obtain ⟨_, hmac⟩ := readAesKey_of_suits hholds.mac (set.suits_mac hsuits)
    exact .scp03 hvariant hsupported henc hmac (.inr rfl) hreveals hfree
  | scp02 blank =>
    obtain rfl : _ = sd := Option.some.inj ((dif_pos hsuits).symm.trans hsd)
    obtain ⟨_, henc⟩ := readTdesKey_of_suits hholds.enc hsuits
    obtain ⟨_, hmac⟩ := readTdesKey_of_suits hholds.mac (set.suits_mac hsuits)
    obtain ⟨_, hdek⟩ := readTdesKey_of_suits hholds.dek (set.suits_dek hsuits)
    exact .scp02 hoffers henc hmac hdek (.inr rfl) hfree

/-- Under it, host and card have the same DEK for key blocks. -/
theorem payloadDek_of_held {st : BackendState ρ} {held : HeldKeyset} {set : SdKeyset}
    {blank sd : HonestDomain P} {session : ScpSession} {sets : KeyTable}
    (hsd : blank.withKeyset held.kvn set = some sd) (hset : sets held.kvn = some set)
    (hholds : held.Holds st set) (hprotocol : session.protocol = sd.protocol)
    (hdek : sessionDek session st = sd.sessionDek) :
    LiveDek session held.keys.dek st ∧
      payloadDek session held.keys.dek st = some (KeyRing.channelDek sd sets) := by
  have hsuits := suits_of_withKeyset hsd
  cases blank with
  | scp03 blank =>
    obtain rfl : _ = sd := Option.some.inj ((dif_pos hsuits).symm.trans hsd)
    cases session with
    | scp03 s =>
      refine ⟨⟨set.dek, hholds.dek, set.suits_dek hsuits⟩, ?_⟩
      show (st.keys.get held.keys.dek.index.toNat).map KeySlot.bytes =
        some (((sets held.kvn).map fun set => set.dek.bytes).getD [])
      rw [hholds.dek, hset]
      rfl
    | scp02 s => cases hprotocol
  | scp02 blank =>
    obtain rfl : _ = sd := Option.some.inj ((dif_pos hsuits).symm.trans hsd)
    cases session with
    | scp03 s => cases hprotocol
    | scp02 s =>
      refine ⟨trivial, ?_⟩
      have hslot : (st.scp02Sessions.get s.session.index.toNat).map Scp02SessionSlot.sDek =
        some _ := hdek
      obtain ⟨slot, hget, hkey⟩ := Option.map_eq_some_iff.mp hslot
      unfold payloadDek
      dsimp only
      rw [hget, Option.map_some, hkey]
      rfl

/-! ### The calls -/

section calls

variable [RngCore ρ]

/-- The key check values of a PUT KEY that was built are those of its keys. -/
theorem kcvs_of_putKeyCommand {session : ScpSession} {args : PutSdKeysArgs}
    {st st' : RustCryptoBackend P ρ} {capdu : Capdu} {kcvs : NewKcvs} {enc mac dek : KeySlot}
    (hkeys : LiveKeyset session.protocol args.newKeys st enc mac dek)
    (hbuilt : putKeyCommand session args st = (.ok (capdu, kcvs), st')) :
    kcvs.enc.val = kcvOf P enc ∧ kcvs.mac.val = kcvOf P mac ∧ kcvs.dek.val = kcvOf P dek := by
  -- the encryptions come first, and leave the key table as it is
  have hencrypt : ∀ {new : KeyHandle} {blob : List UInt8} {s s' : RustCryptoBackend P ρ},
      encryptNewKey session args.dek new s = (.ok blob, s') → s' = s := by
    intro new blob s s' hrun
    have hleaves : (encryptNewKey session args.dek new :
        Prog (RustCryptoBackend P ρ) ScllError _).Leaves := by
      cases session with
      | scp03 s => exact .mapErr _ (.query _)
      | scp02 s => exact .mapErr _ (.query _)
    have hstate := hleaves s
    rw [hrun] at hstate
    exact hstate
  have hcheck : ∀ {h : KeyHandle} {kcv : BlockMode.Block KCV_LEN} {key : KeySlot}
      {s s' : RustCryptoBackend P ρ}, s = st →
      ofBackend (KeyBackend.computeKcv h) s = (.ok kcv, s') →
      SlotTable.get (BackendState.keys st) h.index.toNat = some key →
      kcv.val = kcvOf P key ∧ s' = st := by
    intro h kcv key s s' hs hrun hkey
    obtain ⟨hkcv, hstate⟩ := Prog.query_eq_ok.mp (ofBackend_eq_ok.mp hrun)
    subst hs
    obtain ⟨kcv', hkcv', hval⟩ := computeKcv_eq P hkey
    obtain rfl := Except.ok.inj (hkcv.symm.trans hkcv')
    exact ⟨hval, hstate.symm⟩
  unfold putKeyCommand at hbuilt
  obtain ⟨_, s₁, h₁, hbuilt⟩ := Prog.bind_eq_ok.mp hbuilt
  obtain ⟨_, s₂, h₂, hbuilt⟩ := Prog.bind_eq_ok.mp hbuilt
  obtain ⟨_, s₃, h₃, hbuilt⟩ := Prog.bind_eq_ok.mp hbuilt
  obtain ⟨kcvEnc, s₄, h₄, hbuilt⟩ := Prog.bind_eq_ok.mp hbuilt
  obtain ⟨kcvMac, s₅, h₅, hbuilt⟩ := Prog.bind_eq_ok.mp hbuilt
  obtain ⟨kcvDek, s₆, h₆, hbuilt⟩ := Prog.bind_eq_ok.mp hbuilt
  obtain ⟨built, s₇, -, hbuilt⟩ := Prog.bind_eq_ok.mp hbuilt
  have hs₃ : s₃ = st := (hencrypt h₃).trans ((hencrypt h₂).trans (hencrypt h₁))
  obtain ⟨hencVal, hs₄⟩ := hcheck hs₃ h₄ hkeys.getEnc
  obtain ⟨hmacVal, hs₅⟩ := hcheck hs₄ h₅ hkeys.getMac
  obtain ⟨hdekVal, -⟩ := hcheck hs₅ h₆ hkeys.getDek
  obtain ⟨hkcvs, -⟩ := Prod.mk.inj hbuilt
  obtain ⟨-, rfl⟩ := Prod.mk.inj (Except.ok.inj hkcvs)
  exact ⟨hencVal, hmacVal, hdekVal⟩

theorem kcv_of_carries {protocol : ScpProtocol} {dek : List UInt8} {key : KeySlot}
    {b : CardKeyBlock} (h : Carries P protocol dek key b) : b.kcv = kcvOf P key := by
  cases protocol with
  | scp03 => exact h.2.1
  | scp02 => exact h.2.1

/-- A reply of ten octets is whole. -/
theorem data_echo (kvn : UInt8) (enc mac dek : BlockMode.Block KCV_LEN) :
    (AppReply.ok (kvn :: (enc.val ++ mac.val ++ dek.val))).data =
      kvn :: (enc.val ++ mac.val ++ dek.val) := by
  apply List.take_of_length_le
  rw [List.length_cons, List.length_append, List.length_append, enc.property, mac.property,
    dek.property]
  decide

/-- The echo of the card is what the host expects. -/
theorem verifyKcvEcho_echo (kvn : UInt8) (enc mac dek : BlockMode.Block KCV_LEN) :
    verifyKcvEcho (kvn :: (enc.val ++ mac.val ++ dek.val)) kvn enc mac dek =
      .ok (enc.val ++ mac.val ++ dek.val) := by
  have hlength : (kvn :: (enc.val ++ mac.val ++ dek.val)).length = KCV_ECHO_LEN := by
    rw [List.length_cons, List.length_append, List.length_append, enc.property, mac.property,
      dek.property]
    rfl
  unfold verifyKcvEcho
  dsimp only
  rw [← hlength, List.take_length, if_neg (fun h => h.2 rfl)]

theorem putKeysReport_ok (session : ScpSession) (args : PutSdKeysArgs) (kcvs : List UInt8)
    (haid : AidLength args.targetSdAid) :
    ∃ report, putKeysReport session args kcvs = .ok report := by
  have hnew : Aid.new args.targetSdAid = .ok ⟨args.targetSdAid, haid⟩ := Aid.new_eq_ok.mpr rfl
  unfold putKeysReport
  rw [hnew]
  exact ⟨_, rfl⟩

omit [RngCore ρ] in
theorem exists_admitted (session : ScpSession) {capdu : Capdu}
    {w : World (IdealCard (KeyRing P)) (IdealBackend P ρ)} {c : Command} {next : IdealChannel}
    {reply : AppReply} {ring : KeyRing P} (haccept : w.backend.channel.accept capdu = .ok (c, next))
    (hperform : w.transport.app.perform c = (reply, ring)) :
    ∃ w', transmitInSession session capdu w = (.ok (reply.data, reply.sw), w') ∧
      w'.transport.app = ring :=
  ⟨_, transmitInSession_admitted P haccept hperform, rfl⟩

/-- PUT KEY over the ideal channel adds the keys of the handles to the table. -/
theorem putSdKeys_keyRing {session : ScpSession} (args : PutSdKeysArgs) {set : SdKeyset}
    {w : World (ServedCard P (KeyRing P)) (RustCryptoBackend P ρ)}
    {w' : World (IdealCard (KeyRing P)) (IdealBackend P ρ)} (h : InIdeal P session w w')
    (hroom : w'.backend.channel.RoomFor 1) (hlive : LiveDek session args.dek w.backend)
    (hdek : payloadDek session args.dek w.backend = some w'.transport.app.dek)
    (hkeys : LiveKeyset session.protocol args.newKeys w.backend set.enc set.mac set.dek)
    (hprotocol : w'.transport.app.blank.protocol = session.protocol)
    (hnonzero : args.newKvn ≠ 0x00) (hfresh : w'.transport.app.sets args.newKvn = none)
    (haid : AidLength args.targetSdAid) :
    ∃ report w'', putSdKeys session args w' = (.ok report, w'') ∧
      w''.transport.app = w'.transport.app.setKeys
        (Function.update w'.transport.app.sets args.newKvn (some set)) := by
  obtain ⟨data, kcvs, b₁, b₂, b₃, hne, hlen, hbuilt, hread, h₁, h₂, h₃⟩ :=
    putKeyCommand_carries P w.backend hlive hdek hkeys
  obtain ⟨hkcvEnc, hkcvMac, hkcvDek⟩ := kcvs_of_putKeyCommand hkeys hbuilt
  have hblocks : b₁.kcv = kcvs.enc.val ∧ b₂.kcv = kcvs.mac.val ∧ b₃.kcv = kcvs.dek.val := by
    rw [hkcvEnc, hkcvMac, hkcvDek]
    exact ⟨kcv_of_carries h₁, kcv_of_carries h₂, kcv_of_carries h₃⟩
  -- the payload is made in the ideal world as in the real one
  obtain ⟨hout, hstate⟩ := putKeyCommand_ideal session args w w' h
  rw [onBackend_run hbuilt] at hout hstate
  obtain ⟨w₁, hpayload⟩ : ∃ w₁, onBackend (putKeyCommand session args) w' =
      (.ok (0x84 :: 0xD8 :: P1_ADD :: 0x81 :: Capdu.tailOctets data true, kcvs), w₁) :=
    ⟨_, Prod.ext hout.symm rfl⟩
  rw [hpayload] at hstate
  have happ : w₁.transport.app = w'.transport.app := hstate.app.trans h.app.symm
  have hchannel : w₁.backend.channel = w'.backend.channel := hstate.room.trans h.room.symm
  obtain ⟨next, haccept, -⟩ := IdealChannel.accept_of_roomFor (n := 0) (hchannel ▸ hroom) 0x84 0xD8
    P1_ADD 0x81 hne (hlen.trans (by decide)) true
  have hopened : openKeyset P w'.transport.app.blank.protocol w'.transport.app.dek b₁ b₂ b₃ =
      some set := by
    rw [hprotocol]
    exact openKeyset_of_carries (hkeys.kindEnc ▸ hkeys.suits) h₁ h₂ h₃
  have hperform := KeyRing.perform_putKey hread hopened hnonzero hfresh
  obtain ⟨w₂, htransmit, happ₂⟩ := exists_admitted session haccept (happ ▸ hperform)
  rw [hblocks.1, hblocks.2.1, hblocks.2.2, data_echo] at htransmit
  rw [happ] at happ₂
  obtain ⟨report, hreport⟩ := putKeysReport_ok session args
    (kcvs.enc.val ++ kcvs.mac.val ++ kcvs.dek.val) haid
  refine ⟨report, w₂, ?_, happ₂⟩
  unfold putSdKeys
  rw [Prog.bind_ok hpayload]
  dsimp only
  rw [Prog.bind_ok htransmit]
  dsimp only
  rw [show requireSw (AppReply.ok _).sw = .ok () from rfl, Prog.bind_ok (Prog.lift_run (.ok ()) _),
    verifyKcvEcho_echo, Prog.bind_ok (Prog.lift_run _ _), hreport]
  rfl

omit [RngCore ρ] in
/-- DELETE of a version over the ideal channel takes it out of the table. -/
theorem deleteSdKeyset_keyRing (session : ScpSession) {kvn : UInt8} {aid : List UInt8}
    {set : SdKeyset} {w : World (IdealCard (KeyRing P)) (IdealBackend P ρ)}
    (hroom : w.backend.channel.RoomFor 1) (hset : w.transport.app.sets kvn = some set)
    (haid : AidLength aid) :
    ∃ report w', deleteSdKeyset session kvn aid w = (.ok report, w') ∧
      w'.transport.app = w.transport.app.setKeys
        (Function.update w.transport.app.sets kvn none) := by
  have hbuild : ofBuild (Capdu.deleteKey none (some kvn)) =
      .ok (0x84 :: 0xE4 :: 0x00 :: 0x00 :: Capdu.tailOctets [0xD2, 0x01, kvn] true) := by
    have hdata : [0xD2, 0x01, kvn].length ≤ 255 := by simp
    apply ofBuild_eq_ok.mpr
    show Capdu.build 0x84 0xE4 0x00 0x00 [0xD2, 0x01, kvn] true = _
    exact Capdu.build_eq_ok.mpr ⟨hdata, rfl⟩
  have hnew : Aid.new aid = .ok ⟨aid, haid⟩ := Aid.new_eq_ok.mpr rfl
  obtain ⟨next, haccept, -⟩ := IdealChannel.accept_of_roomFor hroom 0x84 0xE4 0x00 0x00
    (List.cons_ne_nil 0xD2 [0x01, kvn]) (show 3 ≤ LOAD_BLOCK_DATA by decide) true
  obtain ⟨w', htransmit, happ⟩ := exists_admitted session haccept
    (KeyRing.perform_deleteKey hset)
  refine ⟨⟨⟨⟨aid, haid⟩, kvn⟩, []⟩, w', ?_, happ⟩
  unfold deleteSdKeyset deleteKeyReport
  rw [hbuild, Prog.bind_ok (Prog.lift_run _ w), Prog.bind_ok htransmit, hnew]
  rfl

end calls

/-! ### Rotations -/

section rotation

variable {τ β : Type} [Transport τ] [KeyBackend β] [Scp03Backend β] [Scp02Backend β]

/-- PUT KEY of `new` under `old`. -/
def addUnder (args : OpenScpArgs) (old new : HeldKeyset) :
    Prog (CardManager τ β) ScllError (Report PutKeysParams) :=
  CardManager.visit (old.openArgs args)
    (CardManager.putSdKeys ⟨old.keys.dek, new.newKeys, new.kvn, args.targetAid⟩)

/-- DELETE of `old` under `new`. -/
def dropUnder (args : OpenScpArgs) (old new : HeldKeyset) :
    Prog (CardManager τ β) ScllError (Report DeleteKeyParams) :=
  CardManager.visit (new.openArgs args) (CardManager.deleteSdKeyset old.kvn args.targetAid)

/-- Add the new version, reopen on it, and delete the superseded one. -/
def rotate (args : OpenScpArgs) (old new : HeldKeyset) :
    Prog (CardManager τ β) ScllError Unit := do
  let _ ← addUnder args old new
  let _ ← dropUnder args old new
  pure ()

/-- One rotation after another. -/
def rotateAll (args : OpenScpArgs) : HeldKeyset → List HeldKeyset →
    Prog (CardManager τ β) ScllError Unit
  | _, [] => pure ()
  | old, new :: rest => do
      rotate args old new
      rotateAll args new rest

end rotation

/-- The keyset is in use: host and card hold it, and the host has no channel open. -/
structure InService (args : OpenScpArgs) (held : HeldKeyset) (set : SdKeyset)
    (m : CardManager (ServedCard P (KeyRing P)) (RustCryptoBackend P ρ)) : Prop where
  rested : Rested m.world.transport.app.blank.protocol m
  suited : Suited args m.world.transport.front m.world.transport.app.blank
  table : m.world.transport.app.sets held.kvn = some set
  nonzero : held.kvn ≠ 0x00
  suits : Suits m.world.transport.app.blank.protocol set.enc.kind
  holds : held.Holds m.world.backend set

section steps

variable [RngCore ρ] {args : OpenScpArgs} {old new : HeldKeyset} {set newSet : SdKeyset}
  {m m' : CardManager (ServedCard P (KeyRing P)) (RustCryptoBackend P ρ)}

omit [RngCore ρ] in
/-- A keyset in service is met by an open under it. -/
theorem InService.meets (h : InService args old set m) :
    ∃ sd, m.world.transport.app.blank.withKeyset old.kvn set = some sd ∧
      sd.protocol = m.world.transport.app.blank.protocol ∧
      MeetsServed (old.openArgs args) m.world.transport m.world.backend sd := by
  obtain ⟨sd, hsd, hprotocol⟩ := withKeyset_of_suits old.kvn h.suits
  refine ⟨sd, hsd, hprotocol, ?_, meets_of_held h.suited hsd h.holds h.rested.free⟩
  show KeyRing.domain old.kvn m.world.transport.app = some sd
  unfold KeyRing.domain
  rw [if_neg h.nonzero]
  dsimp only
  rw [h.table]
  exact hsd

omit [RngCore ρ] in
theorem channelDek_congr {sd sd' : HonestDomain P} (sets : KeyTable)
    (h : HonestDomain.forget sd' = HonestDomain.forget sd) :
    KeyRing.channelDek sd' sets = KeyRing.channelDek sd sets := by
  have hforget : ∀ sd : HonestDomain P,
      KeyRing.channelDek (HonestDomain.forget sd) sets = KeyRing.channelDek sd sets := by
    intro sd
    cases sd <;> rfl
  rw [← hforget sd', h, hforget sd]

/-- What a visit to the table leaves. -/
structure Left (sets : KeyTable) (m m' : CardManager (ServedCard P (KeyRing P))
    (RustCryptoBackend P ρ)) : Prop where
  rested : Rested m.world.transport.app.blank.protocol m'
  steady : (steady P).rel m.world m'.world
  blank : m'.world.transport.app.blank = m.world.transport.app.blank
  sets : m'.world.transport.app.sets = sets

/-- PUT KEY under a keyset in service adds the new one. -/
theorem addUnder_served (h : InService args old set m) (hnew : new.Holds m.world.backend newSet)
    (hsuits : Suits m.world.transport.app.blank.protocol newSet.enc.kind)
    (hnonzero : new.kvn ≠ 0x00) (hfresh : m.world.transport.app.sets new.kvn = none) :
    ∃ report m', addUnder args old new m = (.ok report, m') ∧
      Left (Function.update m.world.transport.app.sets new.kvn (some newSet)) m m' := by
  obtain ⟨sd, hsd, hprotocol, hmeets⟩ := h.meets
  obtain ⟨session, m₁, hentered, hvisit⟩ := CardManager.visit_served
    (CardManager.putSdKeys ⟨old.keys.dek, new.newKeys, new.kvn, args.targetAid⟩)
    (CardManager.putSdKeys ⟨old.keys.dek, new.newKeys, new.kvn, args.targetAid⟩)
    hmeets (fun session => inSession_alike (putSdKeys_alike (alike_ideal session) _))
    (unobtrusive_inSession fun session => putSdKeys_keeps (steady_keptInSession session) _)
  -- the two ends have the same DEK for the key blocks
  have hkeys : BackendState.keys m₁.world.backend = BackendState.keys m.world.backend :=
    hentered.steady.1
  obtain ⟨hlive, hdek⟩ := payloadDek_of_held hsd h.table (h.holds.congr hkeys) hentered.protocol
    hentered.dek
  rw [← channelDek_congr _ hentered.domain] at hdek
  have happ : m₁.world.transport.app =
      KeyRing.opened m₁.world.transport.front.domain m.world.transport.app := hentered.app
  have hsame : (m₁.ideal session).world.transport.app = m₁.world.transport.app := rfl
  have hsession : m.world.transport.app.blank.protocol = session.protocol :=
    (hentered.protocol.trans hprotocol).symm
  have hlength := h.suited.target
  obtain ⟨report, w', hput, hring⟩ := putSdKeys_keyRing
    ⟨old.keys.dek, new.newKeys, new.kvn, args.targetAid⟩ hentered.inIdeal
    (hentered.room.mono (by decide)) hlive (by rw [hsame, happ]; exact hdek)
    ((hnew.congr hkeys).live (hsession ▸ hsuits)) (by rw [hsame, happ]; exact hsession) hnonzero
    (by rw [hsame, happ]; exact hfresh) hlength
  obtain ⟨m₂, hrun, hrested, hkept, hafter⟩ := hvisit report _
    (CardManager.inSession_run (m := m₁.ideal session) hentered.retained hput)
  have hend : m₂.world.transport.app =
      (KeyRing.opened m₁.world.transport.front.domain m.world.transport.app).setKeys
        (Function.update m.world.transport.app.sets new.kvn (some newSet)) := by
    rw [hafter]
    show w'.transport.app = _
    rw [hring, hsame, happ]
    rfl
  refine ⟨report, m₂, hrun, hprotocol ▸ hrested, hkept, ?_, ?_⟩
  · rw [hend]
    rfl
  · rw [hend]
    rfl

/-- DELETE under a keyset in service takes the version out. -/
theorem dropUnder_served (h : InService args new set m)
    (hpresent : m.world.transport.app.sets old.kvn = some newSet) :
    ∃ report m', dropUnder args old new m = (.ok report, m') ∧
      Left (Function.update m.world.transport.app.sets old.kvn none) m m' := by
  obtain ⟨sd, hsd, hprotocol, hmeets⟩ := h.meets
  obtain ⟨session, m₁, hentered, hvisit⟩ := CardManager.visit_served
    (CardManager.deleteSdKeyset old.kvn args.targetAid)
    (CardManager.deleteSdKeyset old.kvn args.targetAid)
    hmeets (fun session => inSession_alike (deleteSdKeyset_alike (alike_ideal session) _ _))
    (unobtrusive_inSession fun session => deleteSdKeyset_keeps (steady_keptInSession session) _ _)
  have happ : m₁.world.transport.app =
      KeyRing.opened m₁.world.transport.front.domain m.world.transport.app := hentered.app
  have hsame : (m₁.ideal session).world.transport.app = m₁.world.transport.app := rfl
  obtain ⟨report, w', hdelete, hring⟩ := deleteSdKeyset_keyRing session
    (w := (m₁.ideal session).world) (hentered.room.mono (by decide))
    (by rw [hsame, happ]; exact hpresent) h.suited.target
  obtain ⟨m₂, hrun, hrested, hkept, hafter⟩ := hvisit report _
    (CardManager.inSession_run (m := m₁.ideal session) hentered.retained hdelete)
  have hend : m₂.world.transport.app =
      (KeyRing.opened m₁.world.transport.front.domain m.world.transport.app).setKeys
        (Function.update m.world.transport.app.sets old.kvn none) := by
    rw [hafter]
    show w'.transport.app = _
    rw [hring, hsame, happ]
    rfl
  refine ⟨report, m₂, hrun, hprotocol ▸ hrested, hkept, ?_, ?_⟩
  · rw [hend]
    rfl
  · rw [hend]
    rfl

/-! ### Chains of rotations -/

omit [RngCore ρ] in
theorem Left.trans {sets sets' : KeyTable}
    {m m₁ m₂ : CardManager (ServedCard P (KeyRing P)) (RustCryptoBackend P ρ)}
    (h : Left sets m m₁) (h' : Left sets' m₁ m₂) : Left sets' m m₂ where
  rested := by
    rw [← h.blank]
    exact h'.rested
  steady := (Scll.steady P).trans h.steady h'.steady
  blank := h'.blank.trans h.blank
  sets := h'.sets

omit [RngCore ρ] in
/-- A keyset that a visit has left in the table can be in service. -/
theorem InService.moved {sets : KeyTable} (h : InService args old set m) (hleft : Left sets m m')
    (hnew : new.Holds m.world.backend newSet)
    (hsuits : Suits m.world.transport.app.blank.protocol newSet.enc.kind)
    (hnonzero : new.kvn ≠ 0x00) (hset : sets new.kvn = some newSet) :
    InService args new newSet m' := by
  obtain ⟨hrested, ⟨hkeys, haccepts, hfci⟩, hblank, hsets⟩ := hleft
  obtain ⟨htarget, haccepted, hlevel, hoffers⟩ := h.suited
  refine ⟨hblank ▸ hrested, ⟨htarget, ?_, hlevel, ?_⟩, ?_, hnonzero, ?_, hnew.congr hkeys⟩
  · rw [haccepts]
    exact haccepted
  · rw [hfci, hblank]
    exact hoffers
  · rw [hsets]
    exact hset
  · rw [hblank]
    exact hsuits

/-- The table once `new` has replaced `old`. -/
def replaced (sets : KeyTable) (old new : HeldKeyset) (newSet : SdKeyset) : KeyTable :=
  Function.update (Function.update sets new.kvn (some newSet)) old.kvn none

/-- What a keyset that is to be put on the card has to be. -/
structure Admissible (protocol : ScpProtocol) (st : BackendState ρ) (sets : KeyTable)
    (new : HeldKeyset) (newSet : SdKeyset) : Prop where
  holds : new.Holds st newSet
  suits : Suits protocol newSet.enc.kind
  nonzero : new.kvn ≠ 0x00
  fresh : sets new.kvn = none

/-- One rotation: the new keyset is in service and the old one is gone. -/
theorem rotate_served (h : InService args old set m)
    (hnew : Admissible m.world.transport.app.blank.protocol m.world.backend
      m.world.transport.app.sets new newSet) :
    ∃ m', rotate args old new m = (.ok (), m') ∧ InService args new newSet m' ∧
      Left (replaced m.world.transport.app.sets old new newSet) m m' := by
  obtain ⟨added, m₁, hadd, hleft⟩ := addUnder_served h hnew.holds hnew.suits hnew.nonzero hnew.fresh
  have hne : old.kvn ≠ new.kvn := by
    intro heq
    have htable := h.table
    rw [heq, hnew.fresh] at htable
    cases htable
  have hservice : InService args new newSet m₁ :=
    h.moved hleft hnew.holds hnew.suits hnew.nonzero (Function.update_self ..)
  have hpresent : m₁.world.transport.app.sets old.kvn = some set := by
    rw [hleft.sets, Function.update_of_ne hne]
    exact h.table
  obtain ⟨dropped, m₂, hdrop, hleft'⟩ := dropUnder_served hservice hpresent
  have hboth := hleft.trans hleft'
  rw [hleft.sets] at hboth
  refine ⟨m₂, ?_, ?_, hboth⟩
  · unfold rotate
    rw [Prog.bind_ok hadd, Prog.bind_ok hdrop]
    rfl
  · apply h.moved hboth hnew.holds hnew.suits hnew.nonzero
    rw [Function.update_of_ne hne.symm]
    exact Function.update_self ..

/-- A chain of keysets, each admissible once the ones before it have been rotated to. -/
inductive Chain (protocol : ScpProtocol) (st : BackendState ρ) :
    KeyTable → HeldKeyset → SdKeyset → List HeldKeyset → HeldKeyset → SdKeyset → Prop
  | done {sets : KeyTable} {held : HeldKeyset} {set : SdKeyset} :
      Chain protocol st sets held set [] held set
  | step {sets : KeyTable} {old new last : HeldKeyset} {set newSet lastSet : SdKeyset}
      {rest : List HeldKeyset} (hnew : Admissible protocol st sets new newSet)
      (hrest : Chain protocol st (replaced sets old new newSet) new newSet rest last lastSet) :
      Chain protocol st sets old set (new :: rest) last lastSet

/-- What is left of the table at the end of a chain. -/
def handedOver (sets : KeyTable) (first last : HeldKeyset) (lastSet : SdKeyset) : KeyTable :=
  Function.update (Function.update sets first.kvn none) last.kvn (some lastSet)

theorem handedOver_self {sets : KeyTable} {held : HeldKeyset} {set : SdKeyset}
    (h : sets held.kvn = some set) : handedOver sets held held set = sets := by
  funext kvn
  unfold handedOver
  by_cases hkvn : kvn = held.kvn
  · rw [hkvn, Function.update_self, h]
  · rw [Function.update_of_ne hkvn, Function.update_of_ne hkvn]

/-- A version in between leaves nothing behind. -/
theorem handedOver_replaced {sets : KeyTable} {old new last : HeldKeyset}
    {newSet lastSet : SdKeyset} (hfresh : sets new.kvn = none) :
    handedOver (replaced sets old new newSet) new last lastSet =
      handedOver sets old last lastSet := by
  unfold handedOver replaced
  congr 1
  funext kvn
  by_cases hnew : kvn = new.kvn
  · rw [hnew, Function.update_self]
    by_cases hold : new.kvn = old.kvn
    · rw [hold, Function.update_self]
    · rw [Function.update_of_ne hold, hfresh]
  · by_cases hold : kvn = old.kvn
    · rw [Function.update_of_ne hnew, hold, Function.update_self, Function.update_self]
    · rw [Function.update_of_ne hnew, Function.update_of_ne hold, Function.update_of_ne hnew,
        Function.update_of_ne hold]

/-- Every rotation of a chain goes through, one after the other. -/
theorem rotateAll_served {protocol : ScpProtocol} {st : BackendState ρ} {sets : KeyTable}
    {news : List HeldKeyset} {last : HeldKeyset} {lastSet : SdKeyset}
    (hchain : Chain protocol st sets old set news last lastSet)
    (h : InService args old set m) (hprotocol : m.world.transport.app.blank.protocol = protocol)
    (hkeys : BackendState.keys m.world.backend = st.keys)
    (hsets : m.world.transport.app.sets = sets) :
    ∃ m', rotateAll args old news m = (.ok (), m') ∧ InService args last lastSet m' ∧
      Left (handedOver sets old last lastSet) m m' := by
  induction hchain generalizing m with
  | @done sets held set =>
    refine ⟨m, rfl, h, h.rested, (steady P).refl _, rfl, ?_⟩
    rw [handedOver_self (hsets ▸ h.table), hsets]
  | @step sets old new last set newSet lastSet rest hnew hrest ih =>
    obtain ⟨hholds, hsuits, hnonzero, hfresh⟩ := hnew
    obtain ⟨m₁, hrotate, hservice, hleft⟩ := rotate_served h
      ⟨hholds.congr hkeys, hprotocol ▸ hsuits, hnonzero, hsets ▸ hfresh⟩
    rw [hsets] at hleft
    obtain ⟨m', hrun, hlast, hleft'⟩ := ih hservice (hleft.blank ▸ hprotocol)
      (hleft.steady.1.trans hkeys) hleft.sets
    rw [handedOver_replaced hfresh] at hleft'
    refine ⟨m', ?_, hlast, hleft.trans hleft'⟩
    unfold rotateAll
    rw [Prog.bind_ok hrotate]
    exact hrun

omit [RngCore ρ] in
/-- A version that a chain goes through was not in the table before, or is the first. -/
theorem Chain.passed {protocol : ScpProtocol} {st : BackendState ρ} {sets : KeyTable}
    {news : List HeldKeyset} {last : HeldKeyset} {lastSet : SdKeyset}
    (hchain : Chain protocol st sets old set news last lastSet) :
    ∀ held ∈ news, held.kvn ≠ 0x00 ∧ (held.kvn = old.kvn ∨ sets held.kvn = none) := by
  induction hchain with
  | done =>
    intro held hheld
    cases hheld
  | @step sets old new last set newSet lastSet rest hnew hrest ih =>
    intro held hheld
    rcases List.mem_cons.mp hheld with rfl | hheld
    · exact ⟨hnew.nonzero, .inr hnew.fresh⟩
    · obtain ⟨hnonzero, hpassed⟩ := ih held hheld
      refine ⟨hnonzero, ?_⟩
      by_cases hold : held.kvn = old.kvn
      · exact .inl hold
      · rcases hpassed with heq | hnone
        · rw [heq]
          exact .inr hnew.fresh
        · unfold replaced at hnone
          rw [Function.update_of_ne hold] at hnone
          by_cases hkvn : held.kvn = new.kvn
          · rw [hkvn, Function.update_self] at hnone
            cases hnone
          · rw [Function.update_of_ne hkvn] at hnone
            exact .inr hnone

/-- Nothing is opened under a version that is not in the table. -/
theorem openScp_absent {held : HeldKeyset} {effective : OpenScpParams}
    (hnonzero : held.kvn ≠ 0x00) (habsent : m.world.transport.app.sets held.kvn = none) :
    CardManager.openScp (held.openArgs args) m ≠ (.ok effective, m') := by
  apply CardManager.openScp_unknown
  show KeyRing.domain held.kvn m.world.transport.app = none
  unfold KeyRing.domain
  rw [if_neg hnonzero]
  dsimp only
  rw [habsent]
  rfl

/-- A chain of rotations goes through and hands over: the table ends with the last
    keyset in place of the first, the last keyset opens a channel, and no other version
    of the chain does. -/
theorem rotation_hands_over (args : OpenScpArgs) (first last : HeldKeyset)
    (firstSet lastSet : SdKeyset) (news : List HeldKeyset)
    (m : CardManager (ServedCard P (KeyRing P)) (RustCryptoBackend P ρ))
    (hservice : InService args first firstSet m)
    (hchain : Chain m.world.transport.app.blank.protocol m.world.backend
      m.world.transport.app.sets first firstSet news last lastSet) :
    ∃ m', rotateAll args first news m = (.ok (), m') ∧
      m'.world.transport.app.sets =
        handedOver m.world.transport.app.sets first last lastSet ∧
      (∃ effective m'', CardManager.openScp (last.openArgs args) m' = (.ok effective, m'')) ∧
      ∀ held ∈ first :: news, held.kvn ≠ last.kvn → ∀ effective m'',
        CardManager.openScp (held.openArgs args) m' ≠ (.ok effective, m'') := by
  obtain ⟨m', hrun, hlast, hleft⟩ := rotateAll_served hchain hservice rfl rfl rfl
  refine ⟨m', hrun, hleft.sets, ?_, ?_⟩
  · obtain ⟨sd, -, -, hmeets⟩ := hlast.meets
    obtain ⟨effective, session, m'', hopen, -⟩ := CardManager.openScp_enters hmeets
    exact ⟨effective, m'', hopen⟩
  · intro held hheld hne effective m''
    have hpassed : held.kvn ≠ 0x00 ∧
        (held.kvn = first.kvn ∨ m.world.transport.app.sets held.kvn = none) := by
      rcases List.mem_cons.mp hheld with rfl | hheld
      · exact ⟨hservice.nonzero, .inl rfl⟩
      · exact hchain.passed held hheld
    apply openScp_absent hpassed.1
    rw [hleft.sets]
    unfold handedOver
    rw [Function.update_of_ne hne]
    by_cases hfirst : held.kvn = first.kvn
    · rw [hfirst, Function.update_self]
    · rw [Function.update_of_ne hfirst]
      exact hpassed.2.resolve_left hfirst

end steps

/-! ### A card that is rotated twice -/

/-- A keyset of one key. -/
def SdKeyset.ofKey (key : KeySlot) : SdKeyset := ⟨key, key, key, rfl, rfl⟩

theorem length_sampleOctets :
    (List.replicate 16 0x40 : List UInt8).length = KeyKind.aes128.clearLen := rfl

def sampleKey : KeySlot := ⟨.aes128, List.replicate 16 0x40, length_sampleOctets⟩

def sampleLongKey : KeySlot := ⟨.aes256, List.replicate 32 0x5A, rfl⟩

/-- One key in each of two slots. -/
def rotationBackend : BackendState Unit :=
  { Handles.keyedBackend with keys := Handles.keyedBackend.keys.set 1 (some sampleLongKey) }

def heldAt (slot : UInt16) (kind : KeyKind) (kvn : UInt8) : HeldKeyset :=
  ⟨⟨⟨slot⟩, ⟨slot⟩, ⟨slot⟩⟩, kind, kvn⟩

def rotationManager : CardManager (ServedCard Primitives.xorCipher (KeyRing Primitives.xorCipher))
    (RustCryptoBackend Primitives.xorCipher Unit) :=
  .new ⟨sampleWorld.transport, ⟨.scp03 sampleDomain,
    Function.update (fun _ => none) 0x30 (some (.ofKey sampleKey)), 0x30, []⟩⟩ rotationBackend

theorem rotation_holds (key : KeySlot) (slot : UInt16) (kvn : UInt8)
    (h : rotationBackend.keys.get slot.toNat = some key) :
    (heldAt slot key.kind kvn).Holds rotationBackend (.ofKey key) :=
  ⟨h, h, h, rfl⟩

theorem inService_sample :
    InService sampleArgs (heldAt 0 .aes128 0x30) (.ofKey sampleKey) rotationManager where
  rested := ⟨rfl, ⟨0, by decide⟩, rfl⟩
  suited :=
    { target := by decide
      accepts := by decide
      level := by decide
      offers := ⟨by decide, by decide, .carried sample_names⟩ }
  table := rfl
  nonzero := by decide
  suits := by decide
  holds := rotation_holds sampleKey 0 0x30 rfl

theorem rotation_hands_over_sample :
    ∃ m', rotateAll sampleArgs (heldAt 0 .aes128 0x30)
        [heldAt 1 .aes256 0x31, heldAt 0 .aes128 0x32] rotationManager = (.ok (), m') ∧
      ∀ effective m'', CardManager.openScp ((heldAt 0 .aes128 0x30).openArgs sampleArgs) m' ≠
        (.ok effective, m'') := by
  obtain ⟨m', hrun, -, -, hgone⟩ := rotation_hands_over sampleArgs (heldAt 0 .aes128 0x30)
    (heldAt 0 .aes128 0x32) (.ofKey sampleKey) (.ofKey sampleKey)
    [heldAt 1 .aes256 0x31, heldAt 0 .aes128 0x32] rotationManager inService_sample
    (.step ⟨rotation_holds sampleLongKey 1 0x31 rfl, by decide, by decide, rfl⟩
      (.step ⟨rotation_holds sampleKey 0 0x32 rfl, by decide, by decide, rfl⟩ .done))
  exact ⟨m', hrun, hgone _ List.mem_cons_self (by decide)⟩

end Scll
