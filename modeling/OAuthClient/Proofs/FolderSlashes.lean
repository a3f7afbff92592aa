import OAuthClient.Proofs.DriveUrls
import OAuthClient.Proofs.FileDelivery

/-! # Slashes around a folder

The folder of an upload is put in front of the file's name without the slashes at
its ends, so that an upload goes to the same addresses however many there are.
Only whether there is a folder at all is asked before the slashes are gone: a
folder of slashes alone is one, and comes to an empty name in front of the file's.
-/

namespace OAuthClient

namespace Text

/-- Marks around a text are stripped with those at its ends. -/
theorem strip_padded (mark : Char) (text : List Char) (m n : Nat) :
    ((List.replicate m mark ++ text ++ List.replicate n mark).dropWhile (· == mark)).rdropWhile
      (· == mark) = (text.dropWhile (· == mark)).rdropWhile (· == mark) := by
  have hmarks (count : Nat) : ∀ c ∈ List.replicate count mark, (c == mark) = true :=
    fun _ => beq_of_mem_replicate
  rw [List.append_assoc, List.dropWhile_append_of_pos (hmarks m), List.dropWhile_append]
  -- A text of marks alone is gone from the front together with the marks behind it.
  split
  next hempty =>
    rw [List.isEmpty_iff.mp hempty, List.dropWhile_eq_nil_iff.mpr (hmarks n)]
  next => exact rdropWhile_append_of_cut (hmarks n)

theorem head?_strip_ne (mark : Char) (text : List Char) :
    ((text.dropWhile (· == mark)).rdropWhile (· == mark)).head? ≠ some mark := by
  intro hhead
  obtain ⟨core, hcore⟩ := List.head?_eq_some_iff.mp hhead
  obtain ⟨marks, hmarks⟩ := List.rdropWhile_prefix (· == mark) (text.dropWhile (· == mark))
  have hstart := List.head?_dropWhile_not (· == mark) text
  rw [← hmarks, hcore] at hstart
  simp at hstart

theorem strip_eq_nil_iff (mark : Char) (text : List Char) :
    (text.dropWhile (· == mark)).rdropWhile (· == mark) = [] ↔ ∀ c ∈ text, c = mark := by
  rw [List.rdropWhile_eq_nil_iff]
  constructor
  · intro hall
    have hempty : text.dropWhile (· == mark) = [] := by
      by_contra hne
      have hstart := List.head?_dropWhile_not (· == mark) text
      obtain ⟨c, rest, hcons⟩ := List.exists_cons_of_ne_nil hne
      rw [hcons] at hall hstart
      simp at hall hstart
      exact hstart hall.1
    simpa using hempty
  · intro hall c hc
    simpa using hall c ((List.dropWhile_suffix _).subset hc)

namespace Percent

theorem encode_singleton_ne_nil (safe : Char → Bool) (c : Char) : encode safe [c] ≠ [] := by
  rw [encode, List.flatMap_singleton, encodeChar]
  split
  next => exact List.cons_ne_nil _ _
  next =>
    unfold Utf8.encodeChar
    dsimp only
    split_ifs <;> exact List.cons_ne_nil _ _

/-- A path starts with a slash exactly when its encoding does. -/
theorem head?_encode_eq_slash_iff (text : List Char) :
    (encode isPathSafe text).head? = some '/' ↔ text.head? = some '/' := by
  cases text with
  | nil => exact Iff.rfl
  | cons c rest =>
      have hsplit : encode isPathSafe (c :: rest) =
          encode isPathSafe [c] ++ encode isPathSafe rest := encode_append _ [c] rest
      rw [hsplit, List.head?_cons, Option.some.injEq]
      constructor
      · intro hhead
        rw [List.head?_append_of_ne_nil _ (encode_singleton_ne_nil _ c)] at hhead
        have hmem := mem_of_mem_encode (by decide) (by decide) (List.mem_of_mem_head? hhead)
        exact (List.mem_singleton.mp hmem).symm
      · rintro rfl
        rfl

end Percent

namespace Path

theorem not_slash_of_mem_baseName {path : List Char} {c : Char} (hc : c ∈ baseName path) :
    c ≠ '/' := by
  rw [baseName, List.mem_reverse] at hc
  simpa using List.mem_takeWhile_imp hc

end Path

end Text

namespace UploadTask

theorem toList_withoutSlashes (text : String) :
    (withoutSlashes text).toList =
      (text.toList.dropWhile (· == '/')).rdropWhile (· == '/') := by
  rw [withoutSlashes, String.toList_ofList]
  rfl

/-- A task with slashes around its folder. -/
def padded (task : UploadTask) (m n : Nat) : UploadTask :=
  { task with
    folder := .ofList (List.replicate m '/' ++ task.folder.toList ++ List.replicate n '/') }

theorem withoutSlashes_padded (task : UploadTask) (m n : Nat) :
    withoutSlashes (task.padded m n).folder = withoutSlashes task.folder := by
  apply String.toList_inj.mp
  rw [toList_withoutSlashes, toList_withoutSlashes, padded, String.toList_ofList]
  exact Text.strip_padded '/' task.folder.toList m n

/-- Whether a folder is one without a name, which is made of slashes alone. -/
def IsNameless (folder : String) : Prop := folder ≠ "" ∧ ∀ c ∈ folder.toList, c = '/'

/-- The path of a file in the drive starts with a slash exactly when its folder has no name. -/
theorem head?_destination_iff (task : UploadTask) :
    task.destination.toList.head? = some '/' ↔ IsNameless task.folder := by
  unfold destination
  dsimp only
  by_cases hempty : task.folder = ""
  · rw [if_pos (String.isEmpty_iff.mpr hempty), String.toList_ofList]
    refine iff_of_false (fun hhead => ?_) fun hnameless => hnameless.1 hempty
    exact Text.Path.not_slash_of_mem_baseName (List.mem_of_mem_head? hhead) rfl
  · rw [if_neg fun hfolder => hempty (String.isEmpty_iff.mp hfolder), String.toList_append,
      String.toList_append, toList_withoutSlashes, List.append_assoc]
    by_cases hstripped : (task.folder.toList.dropWhile (· == '/')).rdropWhile (· == '/') = []
    · rw [hstripped]
      exact iff_of_true rfl ⟨hempty, (Text.strip_eq_nil_iff _ _).mp hstripped⟩
    · rw [List.head?_append_of_ne_nil _ hstripped]
      refine iff_of_false (Text.head?_strip_ne '/' _) fun hnameless => hstripped ?_
      exact (Text.strip_eq_nil_iff _ _).mpr hnameless.2

theorem slash_prefix_url_iff (task : UploadTask) (action : String) :
    (driveUrl task.userId ++ "/root://").toList <+: (task.url action).toList ↔
      task.destination.toList.head? = some '/' := by
  have hroot : (driveUrl task.userId ++ "/root://").toList =
      (driveUrl task.userId ++ "/root:/").toList ++ ['/'] := by
    simp
  have hurl : (task.url action).toList = (driveUrl task.userId ++ "/root:/").toList ++
      (Text.Percent.encode Text.Percent.isPathSafe task.destination.toList ++
        (':' :: '/' :: action.toList)) := by
    simp [url, itemUrl]
  rw [hroot, hurl, List.prefix_append_right_inj, ← Text.Percent.head?_encode_eq_slash_iff]
  cases Text.Percent.encode Text.Percent.isPathSafe task.destination.toList with
  | nil => simp
  | cons c rest => simp [eq_comm]

theorem padded_zero (task : UploadTask) : task.padded 0 0 = task := by
  simp [padded]

theorem folder_padded_eq_empty_iff (task : UploadTask) (m n : Nat) :
    (task.padded m n).folder = "" ↔ task.folder = "" ∧ m = 0 ∧ n = 0 := by
  rw [← String.toList_inj, ← String.toList_inj, padded, String.toList_ofList]
  simp only [String.toList_empty, List.append_eq_nil_iff, List.replicate_eq_nil_iff]
  tauto

/-- Slashes alone make a folder without a name, and a folder with a name keeps it. -/
theorem isNameless_padded_iff (task : UploadTask) (m n : Nat) :
    IsNameless (task.padded m n).folder ↔
      (∀ c ∈ task.folder.toList, c = '/') ∧ ¬ (task.folder = "" ∧ m = 0 ∧ n = 0) := by
  have hslashes : (∀ c ∈ (task.padded m n).folder.toList, c = '/') ↔
      ∀ c ∈ task.folder.toList, c = '/' := by
    have hmarks (count : Nat) : ∀ c ∈ List.replicate count '/', c = '/' :=
      fun c hc => List.eq_of_mem_replicate hc
    rw [padded, String.toList_ofList, List.forall_mem_append, List.forall_mem_append]
    exact ⟨fun h => h.1.2, fun h => ⟨⟨hmarks m, h⟩, hmarks n⟩⟩
  rw [IsNameless, hslashes, Ne, folder_padded_eq_empty_iff, and_comm]

/-- Slashes around a folder that is there are gone from the path of the file. -/
theorem destination_padded (task : UploadTask) (m n : Nat) (hfolder : task.folder ≠ "") :
    (task.padded m n).destination = task.destination := by
  have hpadded : (task.padded m n).folder ≠ "" := fun hempty =>
    hfolder ((task.folder_padded_eq_empty_iff m n).mp hempty).1
  unfold destination
  dsimp only
  rw [withoutSlashes_padded, if_neg fun hempty => hpadded (String.isEmpty_iff.mp hempty),
    if_neg fun hempty => hfolder (String.isEmpty_iff.mp hempty)]
  rfl

end UploadTask

namespace Context

/-- An upload depends on the folder only through the path of the file in the drive. -/
theorem uploadFile_congr {task other : UploadTask} (huser : other.userId = task.userId)
    (hpath : other.path = task.path) (hchunk : other.chunkSize = task.chunkSize)
    (hdestination : other.destination = task.destination) (store : FileStore)
    (client : HttpClient) : uploadFile store other client = uploadFile store task client := by
  have hurl (action : String) : other.url action = task.url action := by
    rw [UploadTask.url, UploadTask.url, huser, hdestination]
  have hwhole (data : Bytes) : uploadWhole other client data = uploadWhole task client data := by
    unfold uploadWhole
    rw [hurl, hdestination]
  have hsession (data : Bytes) :
      uploadInSession other client data = uploadInSession task client data := by
    unfold uploadInSession
    rw [hurl, hchunk]
  unfold uploadFile
  simp only [hpath, hwhole, hsession]

/-- The addresses to which an upload sends its requests. -/
def uploadUrls (store : FileStore) (task : UploadTask) (client : HttpClient) (before : Context) :
    List Value :=
  (before.world.transcript ((uploadFile store task client).perform before).2.world).map
    fun entry => entry.1.url

end Context

namespace UploadTask

/-- Whether slashes around the folder of a task change nothing: the addresses of the requests are
the same, and the path below the root of the drive starts with none. -/
structure IgnoresSlashes (task : UploadTask) (m n : Nat) : Prop where
  urls : ∀ store client before, Context.uploadUrls store (task.padded m n) client before =
    Context.uploadUrls store task client before
  rooted : ∀ action, ¬ (driveUrl task.userId ++ "/root://").toList <+:
    ((task.padded m n).url action).toList

/-- Slashes around a folder change nothing exactly when it has a name, or there is neither a folder
nor a slash. -/
theorem ignoresSlashes_iff (task : UploadTask) (m n : Nat) :
    task.IgnoresSlashes m n ↔
      (∃ c ∈ task.folder.toList, c ≠ '/') ∨ (task.folder = "" ∧ m = 0 ∧ n = 0) := by
  have hrooted : (∀ action, ¬ (driveUrl task.userId ++ "/root://").toList <+:
      ((task.padded m n).url action).toList) ↔ ¬ IsNameless (task.padded m n).folder := by
    rw [← head?_destination_iff]
    exact ⟨fun h => mt ((task.padded m n).slash_prefix_url_iff "content").mpr (h _),
      fun h action => mt ((task.padded m n).slash_prefix_url_iff action).mp h⟩
  have hcondition : ¬ IsNameless (task.padded m n).folder ↔
      (∃ c ∈ task.folder.toList, c ≠ '/') ∨ (task.folder = "" ∧ m = 0 ∧ n = 0) := by
    rw [isNameless_padded_iff, not_and_or, not_not]
    simp only [not_forall, exists_prop]
  rw [← hcondition]
  -- The path below the root decides: where it is right, the tasks have the same path.
  refine ⟨fun h => hrooted.mp h.rooted, fun h => ⟨fun store client before => ?_, hrooted.mpr h⟩⟩
  rcases hcondition.mp h with ⟨c, hc, -⟩ | ⟨-, rfl, rfl⟩
  · have hfolder : task.folder ≠ "" := by
      intro hempty
      rw [hempty] at hc
      cases hc
    have huser : (task.padded m n).userId = task.userId := rfl
    have hpath : (task.padded m n).path = task.path := rfl
    have hchunk : (task.padded m n).chunkSize = task.chunkSize := rfl
    rw [Context.uploadUrls, Context.uploadUrls, Context.uploadFile_congr huser hpath hchunk
      (task.destination_padded m n hfolder)]
  · rw [padded_zero]

/-- A slash for a folder is not the root of the drive: the file is put below an empty name. -/
theorem slash_is_not_the_root :
    let urls (task : UploadTask) := (Context.uploadUrls (Context.trialStore [0]) task .standard
      (Context.uploadTrial [.response ⟨201, "\x7b\x7d"⟩])).map Value.text?
    ¬ Context.trialTask.IgnoresSlashes 1 0 ∧
      urls Context.trialTask =
        [some "https://graph.microsoft.com/v1.0/users/user/drive/root:/file:/content"] ∧
      urls (Context.trialTask.padded 1 0) =
        [some "https://graph.microsoft.com/v1.0/users/user/drive/root://file:/content"] := by
  intro urls
  have hroot : urls Context.trialTask =
      [some "https://graph.microsoft.com/v1.0/users/user/drive/root:/file:/content"] := by
    decide +kernel
  have hslash : urls (Context.trialTask.padded 1 0) =
      [some "https://graph.microsoft.com/v1.0/users/user/drive/root://file:/content"] := by
    decide +kernel
  refine ⟨fun h => ?_, hroot, hslash⟩
  have hsame : urls (Context.trialTask.padded 1 0) = urls Context.trialTask :=
    congrArg (List.map Value.text?) (h.urls _ _ _)
  rw [hroot, hslash] at hsame
  revert hsame
  decide

end UploadTask

end OAuthClient
