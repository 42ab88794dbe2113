/-
# Curated catalogs of the messaging and media toolkits

The catalog-only tables of `messaging.rs` and `social_media.rs`.
-/
import TinyConnectors.Scope

/-- The curated action catalog for the `discord` toolkit (`messaging.rs`). -/
def DISCORD_CURATED : List CuratedTool :=
  [⟨"DISCORD_GET_MY_USER", .read⟩, ⟨"DISCORD_GET_USER", .read⟩, ⟨"DISCORD_LIST_MY_GUILDS", .read⟩,
    ⟨"DISCORD_GET_MY_GUILD_MEMBER", .read⟩, ⟨"DISCORD_INVITE_RESOLVE", .read⟩,
    ⟨"DISCORD_GET_GUILD_WIDGET", .read⟩, ⟨"DISCORD_LIST_MY_CONNECTIONS", .read⟩]

/-- The curated action catalog for the `telegram` toolkit (`messaging.rs`). -/
def TELEGRAM_CURATED : List CuratedTool :=
  [⟨"TELEGRAM_GET_UPDATES", .read⟩, ⟨"TELEGRAM_GET_CHAT", .read⟩,
    ⟨"TELEGRAM_GET_CHAT_HISTORY", .read⟩, ⟨"TELEGRAM_GET_CHAT_MEMBER", .read⟩,
    ⟨"TELEGRAM_GET_CHAT_MEMBERS_COUNT", .read⟩, ⟨"TELEGRAM_GET_CHAT_ADMINISTRATORS", .read⟩,
    ⟨"TELEGRAM_GET_ME", .read⟩, ⟨"TELEGRAM_SEND_MESSAGE", .write⟩,
    ⟨"TELEGRAM_SEND_PHOTO", .write⟩, ⟨"TELEGRAM_SEND_DOCUMENT", .write⟩,
    ⟨"TELEGRAM_SEND_LOCATION", .write⟩, ⟨"TELEGRAM_SEND_POLL", .write⟩,
    ⟨"TELEGRAM_FORWARD_MESSAGE", .write⟩, ⟨"TELEGRAM_EDIT_MESSAGE", .write⟩,
    ⟨"TELEGRAM_ANSWER_CALLBACK_QUERY", .write⟩, ⟨"TELEGRAM_DELETE_MESSAGE", .admin⟩,
    ⟨"TELEGRAM_CREATE_CHAT_INVITE_LINK", .admin⟩, ⟨"TELEGRAM_SET_MY_COMMANDS", .admin⟩]

/-- The curated action catalog for the `whatsapp` toolkit (`messaging.rs`). -/
def WHATSAPP_CURATED : List CuratedTool :=
  [⟨"WHATSAPP_GET_PHONE_NUMBERS", .read⟩, ⟨"WHATSAPP_GET_MESSAGE_TEMPLATES", .read⟩,
    ⟨"WHATSAPP_GET_PHONE_NUMBER", .read⟩, ⟨"WHATSAPP_GET_BUSINESS_PROFILE", .read⟩,
    ⟨"WHATSAPP_GET_TEMPLATE_STATUS", .read⟩, ⟨"WHATSAPP_GET_MEDIA_INFO", .read⟩,
    ⟨"WHATSAPP_SEND_MESSAGE", .write⟩, ⟨"WHATSAPP_SEND_TEMPLATE_MESSAGE", .write⟩,
    ⟨"WHATSAPP_SEND_MEDIA", .write⟩, ⟨"WHATSAPP_SEND_MEDIA_BY_ID", .write⟩,
    ⟨"WHATSAPP_SEND_INTERACTIVE_BUTTONS", .write⟩, ⟨"WHATSAPP_SEND_INTERACTIVE_LIST", .write⟩,
    ⟨"WHATSAPP_UPLOAD_MEDIA", .write⟩, ⟨"WHATSAPP_CREATE_MESSAGE_TEMPLATE", .admin⟩,
    ⟨"WHATSAPP_DELETE_MESSAGE_TEMPLATE", .admin⟩]

/-- The curated action catalog for the `twitter` toolkit (`social_media.rs`). -/
def TWITTER_CURATED : List CuratedTool :=
  [⟨"TWITTER_RECENT_SEARCH", .read⟩, ⟨"TWITTER_GET_USER_BY_ID", .read⟩,
    ⟨"TWITTER_POST_LOOKUP_BY_POST_ID", .read⟩, ⟨"TWITTER_FOLLOWERS_BY_USER_ID", .read⟩,
    ⟨"TWITTER_FOLLOWING_BY_USER_ID", .read⟩, ⟨"TWITTER_BOOKMARKS_BY_USER", .read⟩,
    ⟨"TWITTER_GET_LIST_MEMBERS", .read⟩, ⟨"TWITTER_FULL_ARCHIVE_SEARCH", .read⟩,
    ⟨"TWITTER_CREATION_OF_A_POST", .write⟩, ⟨"TWITTER_RETWEET_POST", .write⟩,
    ⟨"TWITTER_ADD_POST_TO_BOOKMARKS", .write⟩, ⟨"TWITTER_FOLLOW_USER", .write⟩,
    ⟨"TWITTER_MUTE_USER", .write⟩, ⟨"TWITTER_CREATE_DM_CONVERSATION", .write⟩,
    ⟨"TWITTER_CREATE_LIST", .write⟩, ⟨"TWITTER_ADD_LIST_MEMBER", .write⟩,
    ⟨"TWITTER_POST_DELETE_BY_POST_ID", .admin⟩, ⟨"TWITTER_DELETE_LIST", .admin⟩,
    ⟨"TWITTER_REMOVE_LIST_MEMBER", .admin⟩, ⟨"TWITTER_DELETE_DM", .admin⟩,
    ⟨"TWITTER_REMOVE_POST_FROM_BOOKMARKS", .admin⟩]

/-- The curated action catalog for the `spotify` toolkit (`social_media.rs`). -/
def SPOTIFY_CURATED : List CuratedTool :=
  [⟨"SPOTIFY_GET_CURRENT_USER_S_PROFILE", .read⟩, ⟨"SPOTIFY_GET_USER_S_TOP_TRACKS", .read⟩,
    ⟨"SPOTIFY_GET_PLAYLIST", .read⟩, ⟨"SPOTIFY_GET_PLAYLIST_ITEMS", .read⟩,
    ⟨"SPOTIFY_GET_RECENTLY_PLAYED_TRACKS", .read⟩, ⟨"SPOTIFY_GET_USER_S_SAVED_TRACKS", .read⟩,
    ⟨"SPOTIFY_SEARCH_FOR_ITEM", .read⟩, ⟨"SPOTIFY_GET_AVAILABLE_DEVICES", .read⟩,
    ⟨"SPOTIFY_ADD_ITEMS_TO_PLAYLIST", .write⟩, ⟨"SPOTIFY_CREATE_PLAYLIST", .write⟩,
    ⟨"SPOTIFY_SAVE_TRACKS_FOR_CURRENT_USER", .write⟩, ⟨"SPOTIFY_PAUSE_PLAYBACK", .write⟩,
    ⟨"SPOTIFY_ADD_ITEM_TO_PLAYBACK_QUEUE", .write⟩, ⟨"SPOTIFY_CHANGE_PLAYLIST_DETAILS", .write⟩,
    ⟨"SPOTIFY_REMOVE_PLAYLIST_ITEMS", .admin⟩, ⟨"SPOTIFY_REMOVE_USER_S_SAVED_TRACKS", .admin⟩,
    ⟨"SPOTIFY_UNFOLLOW_ARTISTS_OR_USERS", .admin⟩, ⟨"SPOTIFY_REMOVE_USER_S_SAVED_ALBUMS", .admin⟩]

/-- The curated action catalog for the `youtube` toolkit (`social_media.rs`). -/
def YOUTUBE_CURATED : List CuratedTool :=
  [⟨"YOUTUBE_SEARCH_YOU_TUBE", .read⟩, ⟨"YOUTUBE_LIST_CHANNEL_VIDEOS", .read⟩,
    ⟨"YOUTUBE_GET_CHANNEL_STATISTICS", .read⟩, ⟨"YOUTUBE_LIST_COMMENT_THREADS2", .read⟩,
    ⟨"YOUTUBE_LIST_COMMENTS", .read⟩, ⟨"YOUTUBE_GET_VIDEO_DETAILS_BATCH", .read⟩,
    ⟨"YOUTUBE_LIST_USER_PLAYLISTS", .read⟩, ⟨"YOUTUBE_LIST_PLAYLIST_ITEMS", .read⟩,
    ⟨"YOUTUBE_UPLOAD_VIDEO", .write⟩, ⟨"YOUTUBE_UPDATE_VIDEO", .write⟩,
    ⟨"YOUTUBE_CREATE_PLAYLIST", .write⟩, ⟨"YOUTUBE_ADD_VIDEO_TO_PLAYLIST", .write⟩,
    ⟨"YOUTUBE_POST_COMMENT", .write⟩, ⟨"YOUTUBE_RATE_VIDEO", .write⟩,
    ⟨"YOUTUBE_UPDATE_PLAYLIST", .write⟩, ⟨"YOUTUBE_DELETE_VIDEO", .admin⟩,
    ⟨"YOUTUBE_DELETE_PLAYLIST", .admin⟩, ⟨"YOUTUBE_DELETE_COMMENT", .admin⟩,
    ⟨"YOUTUBE_DELETE_PLAYLIST_ITEM", .admin⟩]
