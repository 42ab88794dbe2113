/-
# Curated catalogs of the toolkits with a provider

The action tables of `toolkits/catalog/` for the six toolkits that also have a
registered provider: ClickUp, GitHub, Gmail, Linear, Notion and Slack.
-/
import TinyConnectors.Scope

/-- The curated action catalog for the `clickup` toolkit (`clickup.rs`). -/
def CLICKUP_CURATED : List CuratedTool :=
  [⟨"CLICKUP_GET_AUTHORIZED_USER", .read⟩, ⟨"CLICKUP_GET_AUTHORIZED_TEAMS_WORKSPACES", .read⟩,
    ⟨"CLICKUP_GET_SPACES", .read⟩, ⟨"CLICKUP_GET_FOLDERS", .read⟩, ⟨"CLICKUP_GET_LISTS", .read⟩,
    ⟨"CLICKUP_GET_FOLDERLESS_LISTS", .read⟩, ⟨"CLICKUP_GET_FILTERED_TEAM_TASKS", .read⟩,
    ⟨"CLICKUP_GET_TASKS", .read⟩, ⟨"CLICKUP_GET_TASK", .read⟩,
    ⟨"CLICKUP_GET_TASK_COMMENTS", .read⟩, ⟨"CLICKUP_GET_LIST_COMMENTS", .read⟩,
    ⟨"CLICKUP_SEARCH_DOCS", .read⟩, ⟨"CLICKUP_GET_DOC_PAGES", .read⟩,
    ⟨"CLICKUP_GET_VIEW_TASKS", .read⟩, ⟨"CLICKUP_GET_TIME_ENTRIES_WITHIN_A_DATE_RANGE", .read⟩,
    ⟨"CLICKUP_GET_WORKSPACE_MEMBERS", .read⟩, ⟨"CLICKUP_GET_TASK_MEMBERS", .read⟩,
    ⟨"CLICKUP_CREATE_TASK", .write⟩, ⟨"CLICKUP_UPDATE_TASK", .write⟩,
    ⟨"CLICKUP_CREATE_TASK_COMMENT", .write⟩, ⟨"CLICKUP_UPDATE_COMMENT", .write⟩,
    ⟨"CLICKUP_CREATE_LIST", .write⟩, ⟨"CLICKUP_UPDATE_LIST", .write⟩,
    ⟨"CLICKUP_DELETE_TASK", .admin⟩, ⟨"CLICKUP_DELETE_COMMENT", .admin⟩,
    ⟨"CLICKUP_DELETE_LIST", .admin⟩]

/-- The curated action catalog for the `github` toolkit (`github.rs`). -/
def GITHUB_CURATED : List CuratedTool :=
  [⟨"GITHUB_GET_THE_AUTHENTICATED_USER", .read⟩,
    ⟨"GITHUB_LIST_REPOSITORIES_FOR_THE_AUTHENTICATED_USER", .read⟩,
    ⟨"GITHUB_GET_A_REPOSITORY", .read⟩, ⟨"GITHUB_LIST_REPOSITORY_COLLABORATORS", .read⟩,
    ⟨"GITHUB_SEARCH_REPOSITORIES", .read⟩, ⟨"GITHUB_SEARCH_CODE", .read⟩,
    ⟨"GITHUB_SEARCH_ISSUES_AND_PULL_REQUESTS", .read⟩, ⟨"GITHUB_SEARCH_USERS", .read⟩,
    ⟨"GITHUB_LIST_REPOSITORY_ISSUES", .read⟩, ⟨"GITHUB_GET_AN_ISSUE", .read⟩,
    ⟨"GITHUB_LIST_ISSUE_COMMENTS", .read⟩, ⟨"GITHUB_LIST_PULL_REQUESTS", .read⟩,
    ⟨"GITHUB_GET_A_PULL_REQUEST", .read⟩, ⟨"GITHUB_LIST_BRANCHES", .read⟩,
    ⟨"GITHUB_GET_A_BRANCH", .read⟩, ⟨"GITHUB_LIST_COMMITS", .read⟩,
    ⟨"GITHUB_GET_A_COMMIT", .read⟩,
    ⟨"GITHUB_CREATE_A_REPOSITORY_FOR_THE_AUTHENTICATED_USER", .write⟩,
    ⟨"GITHUB_CREATE_OR_UPDATE_FILE_CONTENTS", .write⟩, ⟨"GITHUB_CREATE_A_COMMIT", .write⟩,
    ⟨"GITHUB_CREATE_A_COMMIT_COMMENT", .write⟩, ⟨"GITHUB_CREATE_AN_ISSUE", .write⟩,
    ⟨"GITHUB_UPDATE_AN_ISSUE", .write⟩, ⟨"GITHUB_CREATE_AN_ISSUE_COMMENT", .write⟩,
    ⟨"GITHUB_ADD_LABELS_TO_AN_ISSUE", .write⟩, ⟨"GITHUB_ADD_ASSIGNEES_TO_AN_ISSUE", .write⟩,
    ⟨"GITHUB_CREATE_A_PULL_REQUEST", .write⟩, ⟨"GITHUB_UPDATE_A_PULL_REQUEST", .write⟩,
    ⟨"GITHUB_MERGE_A_PULL_REQUEST", .write⟩,
    ⟨"GITHUB_CREATE_A_REVIEW_FOR_A_PULL_REQUEST", .write⟩,
    ⟨"GITHUB_CREATE_A_REVIEW_COMMENT_FOR_A_PULL_REQUEST", .write⟩,
    ⟨"GITHUB_CREATE_A_GIST", .write⟩, ⟨"GITHUB_DELETE_A_REPOSITORY", .admin⟩,
    ⟨"GITHUB_DELETE_A_REFERENCE", .admin⟩, ⟨"GITHUB_DELETE_A_FILE", .admin⟩,
    ⟨"GITHUB_ADD_A_REPOSITORY_COLLABORATOR", .admin⟩, ⟨"GITHUB_CANCEL_A_WORKFLOW_RUN", .admin⟩]

/-- The curated action catalog for the `gmail` toolkit (`gmail.rs`). -/
def GMAIL_CURATED : List CuratedTool :=
  [⟨"GMAIL_FETCH_EMAILS", .read⟩, ⟨"GMAIL_LIST_MESSAGES", .read⟩,
    ⟨"GMAIL_FETCH_MESSAGE_BY_MESSAGE_ID", .read⟩, ⟨"GMAIL_FETCH_MESSAGE_BY_THREAD_ID", .read⟩,
    ⟨"GMAIL_LIST_THREADS", .read⟩, ⟨"GMAIL_GET_ATTACHMENT", .read⟩, ⟨"GMAIL_GET_PROFILE", .read⟩,
    ⟨"GMAIL_GET_CONTACTS", .read⟩, ⟨"GMAIL_GET_PEOPLE", .read⟩, ⟨"GMAIL_SEARCH_PEOPLE", .read⟩,
    ⟨"GMAIL_LIST_DRAFTS", .read⟩, ⟨"GMAIL_GET_DRAFT", .read⟩, ⟨"GMAIL_LIST_LABELS", .read⟩,
    ⟨"GMAIL_GET_LABEL", .read⟩, ⟨"GMAIL_SEND_EMAIL", .write⟩, ⟨"GMAIL_REPLY_TO_THREAD", .write⟩,
    ⟨"GMAIL_FORWARD_MESSAGE", .write⟩, ⟨"GMAIL_CREATE_EMAIL_DRAFT", .write⟩,
    ⟨"GMAIL_UPDATE_DRAFT", .write⟩, ⟨"GMAIL_SEND_DRAFT", .write⟩,
    ⟨"GMAIL_ADD_LABEL_TO_EMAIL", .write⟩, ⟨"GMAIL_DELETE_MESSAGE", .admin⟩,
    ⟨"GMAIL_BATCH_DELETE_MESSAGES", .admin⟩, ⟨"GMAIL_MOVE_TO_TRASH", .admin⟩,
    ⟨"GMAIL_DELETE_THREAD", .admin⟩, ⟨"GMAIL_MOVE_THREAD_TO_TRASH", .admin⟩,
    ⟨"GMAIL_UNTRASH_THREAD", .admin⟩, ⟨"GMAIL_DELETE_DRAFT", .admin⟩,
    ⟨"GMAIL_DELETE_LABEL", .admin⟩]

/-- The curated action catalog for the `linear` toolkit (`linear.rs`). -/
def LINEAR_CURATED : List CuratedTool :=
  [⟨"LINEAR_LIST_LINEAR_USERS", .read⟩, ⟨"LINEAR_LIST_LINEAR_ISSUES", .read⟩,
    ⟨"LINEAR_GET_LINEAR_ISSUE", .read⟩, ⟨"LINEAR_SEARCH_ISSUES", .read⟩,
    ⟨"LINEAR_LIST_LINEAR_TEAMS", .read⟩, ⟨"LINEAR_LIST_LINEAR_PROJECTS", .read⟩,
    ⟨"LINEAR_GET_LINEAR_PROJECT", .read⟩, ⟨"LINEAR_LIST_LINEAR_STATES", .read⟩,
    ⟨"LINEAR_GET_CYCLES_BY_TEAM_ID", .read⟩, ⟨"LINEAR_LIST_LINEAR_LABELS", .read⟩,
    ⟨"LINEAR_CREATE_LINEAR_ISSUE", .write⟩, ⟨"LINEAR_UPDATE_ISSUE", .write⟩,
    ⟨"LINEAR_CREATE_LINEAR_COMMENT", .write⟩, ⟨"LINEAR_UPDATE_LINEAR_COMMENT", .write⟩,
    ⟨"LINEAR_CREATE_ATTACHMENT", .write⟩, ⟨"LINEAR_CREATE_ISSUE_RELATION", .write⟩,
    ⟨"LINEAR_CREATE_LINEAR_PROJECT", .write⟩, ⟨"LINEAR_UPDATE_LINEAR_PROJECT", .write⟩,
    ⟨"LINEAR_CREATE_LINEAR_LABEL", .write⟩, ⟨"LINEAR_DELETE_LINEAR_ISSUE", .admin⟩,
    ⟨"LINEAR_REMOVE_ISSUE_LABEL", .admin⟩]

/-- The curated action catalog for the `notion` toolkit (`notion.rs`). -/
def NOTION_CURATED : List CuratedTool :=
  [⟨"NOTION_SEARCH_NOTION_PAGE", .read⟩, ⟨"NOTION_FETCH_DATA", .read⟩,
    ⟨"NOTION_FETCH_DATABASE", .read⟩, ⟨"NOTION_FETCH_ROW", .read⟩,
    ⟨"NOTION_FETCH_BLOCK_METADATA", .read⟩, ⟨"NOTION_FETCH_BLOCK_CONTENTS", .read⟩,
    ⟨"NOTION_FETCH_ALL_BLOCK_CONTENTS", .read⟩, ⟨"NOTION_FETCH_COMMENTS", .read⟩,
    ⟨"NOTION_GET_PAGE_MARKDOWN", .read⟩, ⟨"NOTION_GET_PAGE_PROPERTY_ACTION", .read⟩,
    ⟨"NOTION_QUERY_DATABASE", .read⟩, ⟨"NOTION_QUERY_DATABASE_WITH_FILTER", .read⟩,
    ⟨"NOTION_QUERY_DATA_SOURCE", .read⟩, ⟨"NOTION_RETRIEVE_PAGE", .read⟩,
    ⟨"NOTION_RETRIEVE_COMMENT", .read⟩, ⟨"NOTION_RETRIEVE_DATABASE_PROPERTY", .read⟩,
    ⟨"NOTION_LIST_USERS", .read⟩, ⟨"NOTION_GET_ABOUT_USER", .read⟩,
    ⟨"NOTION_GET_ABOUT_ME", .read⟩, ⟨"NOTION_LIST_FILE_UPLOADS", .read⟩,
    ⟨"NOTION_RETRIEVE_FILE_UPLOAD", .read⟩, ⟨"NOTION_LIST_DATA_SOURCE_TEMPLATES", .read⟩,
    ⟨"NOTION_CREATE_NOTION_PAGE", .write⟩, ⟨"NOTION_CREATE_DATABASE", .write⟩,
    ⟨"NOTION_CREATE_COMMENT", .write⟩, ⟨"NOTION_CREATE_FILE_UPLOAD", .write⟩,
    ⟨"NOTION_SEND_FILE_UPLOAD", .write⟩, ⟨"NOTION_UPDATE_PAGE", .write⟩,
    ⟨"NOTION_UPDATE_BLOCK", .write⟩, ⟨"NOTION_UPDATE_ROW_DATABASE", .write⟩,
    ⟨"NOTION_INSERT_ROW_DATABASE", .write⟩, ⟨"NOTION_INSERT_ROW_FROM_NL", .write⟩,
    ⟨"NOTION_REPLACE_PAGE_CONTENT", .write⟩, ⟨"NOTION_ADD_PAGE_CONTENT", .write⟩,
    ⟨"NOTION_ADD_MULTIPLE_PAGE_CONTENT", .write⟩, ⟨"NOTION_APPEND_BLOCK_CHILDREN", .write⟩,
    ⟨"NOTION_APPEND_TEXT_BLOCKS", .write⟩, ⟨"NOTION_APPEND_TASK_BLOCKS", .write⟩,
    ⟨"NOTION_APPEND_CODE_BLOCKS", .write⟩, ⟨"NOTION_APPEND_MEDIA_BLOCKS", .write⟩,
    ⟨"NOTION_APPEND_LAYOUT_BLOCKS", .write⟩, ⟨"NOTION_APPEND_TABLE_BLOCKS", .write⟩,
    ⟨"NOTION_DUPLICATE_PAGE", .write⟩, ⟨"NOTION_MOVE_PAGE", .write⟩,
    ⟨"NOTION_DELETE_BLOCK", .admin⟩, ⟨"NOTION_ARCHIVE_NOTION_PAGE", .admin⟩]

/-- The curated action catalog for the `slack` toolkit (`messaging.rs`). -/
def SLACK_CURATED : List CuratedTool :=
  [⟨"SLACK_FIND_CHANNELS", .read⟩, ⟨"SLACK_FIND_USERS", .read⟩,
    ⟨"SLACK_FETCH_CONVERSATION_HISTORY", .read⟩,
    ⟨"SLACK_FETCH_MESSAGE_THREAD_FROM_A_CONVERSATION", .read⟩, ⟨"SLACK_LIST_ALL_CHANNELS", .read⟩,
    ⟨"SLACK_LIST_ALL_USERS", .read⟩, ⟨"SLACK_LIST_CONVERSATIONS", .read⟩,
    ⟨"SLACK_FETCH_TEAM_INFO", .read⟩, ⟨"SLACK_GET_USER_PRESENCE", .read⟩,
    ⟨"SLACK_ASSISTANT_SEARCH_CONTEXT", .read⟩, ⟨"SLACK_SEND_MESSAGE", .write⟩,
    ⟨"SLACK_POST_MESSAGE_TO_CHANNEL", .write⟩, ⟨"SLACK_SEND_MESSAGE_TO_CHANNEL", .write⟩,
    ⟨"SLACK_CREATE_CHANNEL", .write⟩, ⟨"SLACK_INVITE_USERS_TO_A_SLACK_CHANNEL", .admin⟩,
    ⟨"SLACK_ADD_REACTION_TO_AN_ITEM", .write⟩, ⟨"SLACK_UPLOAD_FILE", .write⟩,
    ⟨"SLACK_CREATE_A_REMINDER", .write⟩, ⟨"SLACK_CREATE_USER_GROUP", .write⟩,
    ⟨"SLACK_DELETE_CHANNEL", .admin⟩, ⟨"SLACK_ARCHIVE_CONVERSATION", .admin⟩,
    ⟨"SLACK_DELETE_FILE", .admin⟩, ⟨"SLACK_DELETES_A_MESSAGE_FROM_A_CHAT", .admin⟩,
    ⟨"SLACK_DELETE_REMINDER", .admin⟩, ⟨"SLACK_LEAVE_CONVERSATION", .admin⟩,
    ⟨"SLACK_INVITE_USER_TO_WORKSPACE", .admin⟩, ⟨"SLACK_CONVERT_CHANNEL_TO_PRIVATE", .admin⟩]

/-- The six tables. -/
def PROVIDER_TABLES : List (List CuratedTool) :=
  [CLICKUP_CURATED, GITHUB_CURATED, GMAIL_CURATED, LINEAR_CURATED, NOTION_CURATED, SLACK_CURATED]

/-- No slug of the six tables carries white space at either end. -/
theorem trim_provider_slug {catalog : List CuratedTool} (hcat : catalog ∈ PROVIDER_TABLES) :
    ∀ tool ∈ catalog, RustStr.trim tool.slug = tool.slug := by
  simp only [PROVIDER_TABLES, List.mem_cons, List.not_mem_nil, or_false] at hcat
  rcases hcat with rfl | rfl | rfl | rfl | rfl | rfl
  all_goals
    repeat (first | exact List.forall_mem_nil _ | refine forall_trim_slug_cons (by rfl) ?_)
