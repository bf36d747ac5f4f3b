import Mathlib.Data.List.Infix
import Tetra.Web.Reply
import Tetra.Web.Uri

/-!
# The pages of the video server

`web_video_server.cpp` lists the topics that can be streamed on a page with links, and hands each request
to the handler for its path: the first one of the group that takes it. What is streamed and how comes
from the parameters `topic` and `type`.

`links_lead` says that the links of the page lead to where they say, and so does the page of the viewer.
-/

namespace Tetra.Web

/-! ## The server -/

/-- A streamer factory: its type, the topics that it finds, and what its viewer is made of. -/
structure StreamerFactory where
  type : List UInt8
  topics : List (List UInt8)
  viewerFront : List UInt8 := text "<img src=\""
  viewerBack : List UInt8 := text "\"></img>"
  deriving DecidableEq, Repr

/-- `create_viewer` -/
def StreamerFactory.createViewer (f : StreamerFactory) (request : UriParts) : List UInt8 :=
  f.viewerFront ++ text "/stream?" ++ request.query ++ f.viewerBack

/-- `LibavStreamerFactoryBase`, whose viewer is a video. -/
def libavFactory (type : List UInt8) (topics : List (List UInt8)) : StreamerFactory :=
  ⟨type, topics, text "<video src=\"", text "\" autoplay=\"true\" preload=\"none\"></video>"⟩

/-- `WebVideoServer`; the maps have one factory for each type, in the order of the types. -/
structure WebVideoServer where
  streamerFactories : List StreamerFactory
  snapshotStreamerFactories : List StreamerFactory
  defaultStreamType : List UInt8 := text "mjpeg"
  defaultSnapshotType : List UInt8 := text "jpeg"
  streamer_types : (streamerFactories.map StreamerFactory.type).Pairwise (· < ·)
  snapshot_types : (snapshotStreamerFactories.map StreamerFactory.type).Pairwise (· < ·)

/-- What a handler does with the connection. -/
inductive Response
  /-- It writes. -/
  | written (bytes : List UInt8)
  /-- It starts a streamer. -/
  | stream (factory : StreamerFactory) (topic : List UInt8)
  | snapshot (factory : StreamerFactory) (topic : List UInt8)
  deriving DecidableEq, Repr

/-- `HttpRequestHandlerGroup`: the first handler for the path that returns true, or the default one. -/
def handlerGroup {ρ : Type} (handlers : List (List UInt8 × (UriParts → Option ρ)))
    (defaultHandler : UriParts → ρ) (request : UriParts) : ρ :=
  match handlers with
  | [] => defaultHandler request
  | (path, handler) :: handlers =>
    match if request.path = path then handler request else none with
    | some response => response
    | none => handlerGroup handlers defaultHandler request

namespace WebVideoServer

variable (s : WebVideoServer)

/-- `find(type)` in one of the maps of factories. -/
def factory? (factories : List StreamerFactory) (type : List UInt8) : Option StreamerFactory :=
  factories.find? fun f => f.type = type

/-- `HttpReply::stock_reply(HttpReply::not_found)` -/
def notFound : Response := .written ((stockReply .notFound).getD [])

/-- `handle_stream` -/
def handleStream (request : UriParts) : Response :=
  match factory? s.streamerFactories (request.getQueryParam (text "type") s.defaultStreamType) with
  | some f => .stream f (request.getQueryParam (text "topic") [])
  | none => notFound

/-- `handle_snapshot` -/
def handleSnapshot (request : UriParts) : Response :=
  match factory? s.snapshotStreamerFactories
      (request.getQueryParam (text "type") s.defaultSnapshotType) with
  | some f => .snapshot f (request.getQueryParam (text "topic") [])
  | none => notFound

/-- The header fields of `handle_stream_viewer`. -/
def viewerHeaders : List HttpHeader :=
  [⟨text "Connection", text "close"⟩, ⟨text "Server", text "web_video_server"⟩,
    ⟨text "Content-type", text "text/html;"⟩]

/-- The page of a viewer. -/
def viewerPage (f : StreamerFactory) (request : UriParts) : List UInt8 :=
  let topic := request.getQueryParam (text "topic") []
  builderWrite .ok viewerHeaders ++ text "<html><head><title>" ++ topic ++
    text "</title></head><body>" ++ text "<h1>" ++ topic ++ text "</h1>" ++ f.createViewer request ++
    text "</body></html>"

/-- `handle_stream_viewer` -/
def handleStreamViewer (request : UriParts) : Response :=
  match factory? s.streamerFactories (request.getQueryParam (text "type") s.defaultStreamType) with
  | some f => .written (viewerPage f request)
  | none => notFound

/-! ### The list of topics -/

/-- The URI of a link with a topic and a type. -/
def linkUri (path topic type : List UInt8) : List UInt8 :=
  path ++ text "?topic=" ++ topic ++ text "&type=" ++ type

/-- A link with the type as its text. -/
def typeLink (path topic : List UInt8) (f : StreamerFactory) : List UInt8 :=
  text "<a href=\"" ++ linkUri path topic f.type ++ text "\">" ++ f.type ++ text "</a>"

/-- The links of one kind to a topic, one for each factory that has it. -/
def availableLinks (path topic : List UInt8) (factories : List StreamerFactory) : List (List UInt8) :=
  (factories.filter fun f => topic ∈ f.topics).map (typeLink path topic)

/-- The item of a topic for one kind of links. -/
def linksItem (path topic title : List UInt8) (links : List (List UInt8)) : List UInt8 :=
  text "<li>" ++ (text "<a href=\"" ++ path ++ text "?topic=" ++ topic ++ text "\">") ++
    (title ++ text "</a> (") ++ (text ", ").intercalate links ++ text ")" ++ text "</li>"

/-- The item of a topic. -/
def topicItem (topic : List UInt8) : List UInt8 :=
  let viewers := availableLinks (text "/stream_viewer") topic s.streamerFactories
  let streams := availableLinks (text "/stream") topic s.streamerFactories
  let snapshots := availableLinks (text "/snapshot") topic s.snapshotStreamerFactories
  text "<li>" ++ topic ++ text "<ul>" ++
    (if streams ≠ [] then
      linksItem (text "/stream_viewer") topic (text "Stream Viewer") viewers ++
        linksItem (text "/stream") topic (text "Stream") streams
    else []) ++
    (if snapshots ≠ [] then linksItem (text "/snapshot") topic (text "Snapshot") snapshots else []) ++
    text "</ul>" ++ text "</li>"

/-- `all_topics`, a set of strings in their order. -/
def allTopics : List (List UInt8) :=
  ((s.streamerFactories ++ s.snapshotStreamerFactories).flatMap StreamerFactory.topics).eraseDups.mergeSort
    fun a b => decide (a ≤ b)

/-- The header fields of `handle_list_streams`. -/
def listHeaders : List HttpHeader :=
  [⟨text "Connection", text "close"⟩, ⟨text "Server", text "web_video_server"⟩,
    ⟨text "Cache-Control",
      text "no-cache, no-store, must-revalidate, pre-check=0, post-check=0, max-age=0"⟩,
    ⟨text "Pragma", text "no-cache"⟩, ⟨text "Content-type", text "text/html;"⟩]

/-- What `handle_list_streams` writes. -/
def listPage : List UInt8 :=
  builderWrite .ok listHeaders ++
    text ("<html><head><title>ROS Streamable Topic List</title></head>" ++
      "<body><h1>Available ROS Topics for streaming:</h1>") ++ text "<ul>" ++
    s.allTopics.flatMap s.topicItem ++ text "</ul></body></html>"

/-- `handle_list_streams` -/
def handleListStreams (_request : UriParts) : Response := .written s.listPage

/-- `handle_request`: the group of handlers that the constructor sets up. All of them return true. -/
def handleRequest (uri : List UInt8) : Response :=
  handlerGroup
    [(text "/", fun request => some (s.handleListStreams request)),
      (text "/stream", fun request => some (s.handleStream request)),
      (text "/stream_viewer", fun request => some (s.handleStreamViewer request)),
      (text "/snapshot", fun request => some (s.handleSnapshot request))]
    (fun _ => notFound) (parseUri uri)

/-! ## Requests -/

section Requests

variable {s : WebVideoServer} {f : StreamerFactory} {factories : List StreamerFactory}
  {path topic type : List UInt8}

theorem factory?_of_mem (h : (factories.map StreamerFactory.type).Pairwise (· < ·)) (hf : f ∈ factories) :
    factory? factories f.type = some f := by
  induction factories with
  | nil => simp at hf
  | cons g factories ih =>
    rw [List.map_cons, List.pairwise_cons] at h
    rcases List.mem_cons.mp hf with rfl | hmem
    · simp [factory?]
    · have hlt : g.type < f.type := h.1 _ (List.mem_map_of_mem hmem)
      have hne : g.type ≠ f.type := fun heq => List.lt_irrefl f.type (heq ▸ hlt)
      rw [factory?, List.find?_cons_of_neg (by simpa using hne)]
      exact ih h.2 hmem

/-- The parameters of a link as a query. -/
def linkQuery (topic type : List UInt8) : List UInt8 :=
  renderQuery [(text "topic", topic), (text "type", type)]

theorem linkUri_eq (path topic type : List UInt8) :
    linkUri path topic type = path ++ ascii '?' :: linkQuery topic type := by
  simp [linkUri, linkQuery, renderQuery, renderPair, text]

theorem separate_link (htopic : ascii '&' ∉ topic) (htype : ascii '&' ∉ type) :
    ∀ p ∈ [(text "topic", topic), (text "type", type)], Separate p := by
  have hnames : ascii '=' ∉ text "topic" ∧ ascii '&' ∉ text "topic" ∧ ascii '=' ∉ text "type" ∧
      ascii '&' ∉ text "type" := by decide
  intro p hp
  rcases List.mem_pair.mp hp with rfl | rfl
  · exact ⟨hnames.1, hnames.2.1, htopic⟩
  · exact ⟨hnames.2.2.1, hnames.2.2.2, htype⟩

/-- What a link says is what its request says. -/
theorem parseUri_linkUri (hpath : ascii '?' ∉ path) (htopic : ascii '&' ∉ topic)
    (htype : ascii '&' ∉ type) :
    (parseUri (linkUri path topic type)).path = path ∧
      (parseUri (linkUri path topic type)).query = linkQuery topic type ∧
      (∀ default, (parseUri (linkUri path topic type)).getQueryParam (text "topic") default = topic) ∧
      ∀ default, (parseUri (linkUri path topic type)).getQueryParam (text "type") default = type := by
  rw [linkUri_eq]
  obtain ⟨hparts, hparams⟩ := parseUri_render hpath (separate_link htopic htype)
  refine ⟨hparts, ?_, ?_, ?_⟩
  · rw [parseUri, cutAt_append _ hpath]
  · intro default
    exact hparams (text "topic") default
  · intro default
    exact hparams (text "type") default

theorem handleRequest_stream (hf : f ∈ s.streamerFactories) (htopic : ascii '&' ∉ topic)
    (htype : ascii '&' ∉ f.type) :
    s.handleRequest (linkUri (text "/stream") topic f.type) = .stream f topic := by
  have hquestion : ascii '?' ∉ text "/stream" := by decide
  obtain ⟨hpath, -, htopics, htypes⟩ := parseUri_linkUri hquestion htopic htype
  have hother : text "/stream" ≠ text "/" := by decide
  simp only [handleRequest, handlerGroup, hpath, if_neg hother, if_true, handleStream, htypes,
    factory?_of_mem s.streamer_types hf, htopics]

theorem handleRequest_snapshot (hf : f ∈ s.snapshotStreamerFactories) (htopic : ascii '&' ∉ topic)
    (htype : ascii '&' ∉ f.type) :
    s.handleRequest (linkUri (text "/snapshot") topic f.type) = .snapshot f topic := by
  have hquestion : ascii '?' ∉ text "/snapshot" := by decide
  obtain ⟨hpath, -, htopics, htypes⟩ := parseUri_linkUri hquestion htopic htype
  have hroot : text "/snapshot" ≠ text "/" := by decide
  have hstream : text "/snapshot" ≠ text "/stream" := by decide
  have hviewer : text "/snapshot" ≠ text "/stream_viewer" := by decide
  simp only [handleRequest, handlerGroup, hpath, if_neg hroot, if_neg hstream, if_neg hviewer, if_true,
    handleSnapshot, htypes, factory?_of_mem s.snapshot_types hf, htopics]

/-- The viewer has the link to the stream in it. -/
theorem handleRequest_viewer (hf : f ∈ s.streamerFactories) (htopic : ascii '&' ∉ topic)
    (htype : ascii '&' ∉ f.type) :
    ∃ page, s.handleRequest (linkUri (text "/stream_viewer") topic f.type) = .written page ∧
      f.viewerFront ++ linkUri (text "/stream") topic f.type ++ f.viewerBack <:+: page := by
  let request := parseUri (linkUri (text "/stream_viewer") topic f.type)
  have hquestion : ascii '?' ∉ text "/stream_viewer" := by decide
  obtain ⟨hpath, hquery, htopics, htypes⟩ := parseUri_linkUri hquestion htopic htype
  have hroot : text "/stream_viewer" ≠ text "/" := by decide
  have hstream : text "/stream_viewer" ≠ text "/stream" := by decide
  have huri : text "/stream?" ++ linkQuery topic f.type = linkUri (text "/stream") topic f.type := by
    rw [linkUri_eq]
    simp [text]
  refine ⟨viewerPage f request, ?_, ?_⟩
  · simp only [handleRequest, handlerGroup, hpath, if_neg hroot, if_neg hstream, if_true,
      handleStreamViewer, htypes, factory?_of_mem s.streamer_types hf, request]
  · have hviewer : f.createViewer request =
        f.viewerFront ++ linkUri (text "/stream") topic f.type ++ f.viewerBack := by
      rw [StreamerFactory.createViewer, hquery, List.append_assoc f.viewerFront, huri]
    rw [← hviewer]
    exact List.infix_append _ _ _

end Requests

/-! ## The page -/

section Page

variable {s : WebVideoServer} {f : StreamerFactory} {factories : List StreamerFactory}
  {path topic title : List UInt8}

theorem infix_intercalate {sep piece : List UInt8} {pieces : List (List UInt8)} (h : piece ∈ pieces) :
    piece <:+: sep.intercalate pieces := by
  induction pieces with
  | nil => simp at h
  | cons p pieces ih =>
    cases pieces with
    | nil =>
      rw [List.mem_singleton.mp h]
      simp
    | cons q pieces =>
      rw [List.intercalate_cons_of_ne_nil (by simp)]
      rcases List.mem_cons.mp h with rfl | hmem
      · rw [List.append_assoc]
        exact (List.prefix_append _ _).isInfix
      · exact (ih hmem).trans (List.suffix_append _ _).isInfix

theorem mem_availableLinks (hf : f ∈ factories) (htopic : topic ∈ f.topics) :
    typeLink path topic f ∈ availableLinks path topic factories :=
  List.mem_map_of_mem (List.mem_filter.mpr ⟨hf, by simpa using htopic⟩)

theorem infix_linksItem {link : List UInt8} {links : List (List UInt8)} (h : link ∈ links) :
    link <:+: linksItem path topic title links := by
  have hlinks : link <:+: (text ", ").intercalate links := infix_intercalate h
  refine hlinks.trans ?_
  rw [linksItem, List.append_assoc _ (text ")")]
  exact List.infix_append _ _ _

theorem mem_allTopics (hf : f ∈ s.streamerFactories ++ s.snapshotStreamerFactories)
    (htopic : topic ∈ f.topics) : topic ∈ s.allTopics := by
  rw [allTopics, List.mem_mergeSort, List.mem_eraseDups]
  exact List.mem_flatMap.mpr ⟨f, hf, htopic⟩

theorem infix_topicItem (h : topic ∈ s.allTopics) : s.topicItem topic <:+: s.listPage := by
  have hitem : s.topicItem topic <:+: s.allTopics.flatMap s.topicItem :=
    List.infix_of_mem_flatten (List.mem_map_of_mem h)
  exact hitem.trans (List.infix_append _ _ _)

theorem infix_append_of_left {link l : List UInt8} (l' : List UInt8) (h : link <:+: l) :
    link <:+: l ++ l' :=
  h.trans (List.prefix_append _ _).isInfix

theorem infix_append_of_right {link l' : List UInt8} (l : List UInt8) (h : link <:+: l') :
    link <:+: l ++ l' :=
  h.trans (List.suffix_append _ _).isInfix

/-- The links to the streams of a topic are in its item, those to the viewer and those to the stream. -/
theorem infix_streamLinks (hf : f ∈ s.streamerFactories) (htopic : topic ∈ f.topics) :
    typeLink (text "/stream_viewer") topic f <:+: s.topicItem topic ∧
      typeLink (text "/stream") topic f <:+: s.topicItem topic := by
  have hlink : ∀ path, typeLink path topic f ∈ availableLinks path topic s.streamerFactories :=
    fun path => mem_availableLinks hf htopic
  have hstreams : availableLinks (text "/stream") topic s.streamerFactories ≠ [] :=
    List.ne_nil_of_mem (hlink _)
  rw [topicItem, if_pos hstreams]
  constructor
  all_goals refine infix_append_of_left _ (infix_append_of_left _ (infix_append_of_left _
    (infix_append_of_right _ ?_)))
  · exact infix_append_of_left _ (infix_linksItem (hlink _))
  · exact infix_append_of_right _ (infix_linksItem (hlink _))

theorem infix_snapshotLink (hf : f ∈ s.snapshotStreamerFactories) (htopic : topic ∈ f.topics) :
    typeLink (text "/snapshot") topic f <:+: s.topicItem topic := by
  have hlink : typeLink (text "/snapshot") topic f ∈
      availableLinks (text "/snapshot") topic s.snapshotStreamerFactories :=
    mem_availableLinks hf htopic
  have hsnapshots : availableLinks (text "/snapshot") topic s.snapshotStreamerFactories ≠ [] :=
    List.ne_nil_of_mem hlink
  rw [topicItem, if_pos hsnapshots]
  refine infix_append_of_left _ (infix_append_of_left _ (infix_append_of_right _ ?_))
  exact infix_linksItem hlink

/-- The page of the topics links to every stream and every snapshot that a factory has. -/
theorem links_listed (htopic : topic ∈ f.topics) :
    (f ∈ s.streamerFactories → typeLink (text "/stream_viewer") topic f <:+: s.listPage ∧
      typeLink (text "/stream") topic f <:+: s.listPage) ∧
    (f ∈ s.snapshotStreamerFactories → typeLink (text "/snapshot") topic f <:+: s.listPage) := by
  constructor
  · intro hf
    have hitem := infix_topicItem (mem_allTopics (List.mem_append_left _ hf) htopic)
    obtain ⟨hviewer, hstream⟩ := infix_streamLinks hf htopic
    exact ⟨hviewer.trans hitem, hstream.trans hitem⟩
  · intro hf
    have hitem := infix_topicItem (mem_allTopics (List.mem_append_right _ hf) htopic)
    exact (infix_snapshotLink hf htopic).trans hitem

/--
**The links lead.** Each stream of each factory is linked on the page of the topics, and whoever follows
the link gets the stream of that topic from that factory; the viewer that is linked beside it has the
same stream in it. So it is with the snapshots.
-/
theorem links_lead (htopic : topic ∈ f.topics) (hseparate : ascii '&' ∉ topic ∧ ascii '&' ∉ f.type) :
    (f ∈ s.streamerFactories →
      (typeLink (text "/stream") topic f <:+: s.listPage ∧
        s.handleRequest (linkUri (text "/stream") topic f.type) = .stream f topic) ∧
      typeLink (text "/stream_viewer") topic f <:+: s.listPage ∧
      ∃ page, s.handleRequest (linkUri (text "/stream_viewer") topic f.type) = .written page ∧
        f.viewerFront ++ linkUri (text "/stream") topic f.type ++ f.viewerBack <:+: page) ∧
    (f ∈ s.snapshotStreamerFactories →
      typeLink (text "/snapshot") topic f <:+: s.listPage ∧
        s.handleRequest (linkUri (text "/snapshot") topic f.type) = .snapshot f topic) := by
  obtain ⟨hnotopic, hnotype⟩ := hseparate
  obtain ⟨hstreams, hsnapshots⟩ := links_listed (s := s) htopic
  constructor
  · intro hf
    obtain ⟨hviewer, hstream⟩ := hstreams hf
    exact ⟨⟨hstream, handleRequest_stream hf hnotopic hnotype⟩, hviewer,
      handleRequest_viewer hf hnotopic hnotype⟩
  · intro hf
    exact ⟨hsnapshots hf, handleRequest_snapshot hf hnotopic hnotype⟩

end Page

section Example

/-- The server with a factory for motion pictures, another for videos, and one for snapshots. -/
def cameraServer : WebVideoServer where
  streamerFactories :=
    [⟨text "mjpeg", [text "/camera"], text "<img src=\"", text "\"></img>"⟩,
      libavFactory (text "vp8") [text "/camera", text "/rear"]]
  snapshotStreamerFactories := [⟨text "jpeg", [text "/camera"], [], []⟩]
  streamer_types := by decide
  snapshot_types := by decide

/-- The rear camera as a video. -/
theorem links_lead_rear :
    ∃ f ∈ cameraServer.streamerFactories, text "/rear" ∈ f.topics ∧ f.type = text "vp8" ∧
      typeLink (text "/stream") (text "/rear") f <:+: cameraServer.listPage ∧
      cameraServer.handleRequest (linkUri (text "/stream") (text "/rear") f.type) =
        .stream f (text "/rear") := by
  have hf : libavFactory (text "vp8") [text "/camera", text "/rear"] ∈ cameraServer.streamerFactories := by
    simp [cameraServer]
  have htopic : text "/rear" ∈ (libavFactory (text "vp8") [text "/camera", text "/rear"]).topics := by
    simp [libavFactory]
  have hseparate : ascii '&' ∉ text "/rear" ∧ ascii '&' ∉ text "vp8" := by decide
  obtain ⟨⟨hlink, hrequest⟩, -⟩ := (links_lead htopic hseparate).1 hf
  exact ⟨_, hf, htopic, rfl, hlink, hrequest⟩

end Example

end WebVideoServer

end Tetra.Web
