/-
# Curated catalogs of the workplace toolkits

The catalog-only tables of `business.rs`, `google.rs`, `microsoft.rs` and
`productivity.rs`, and Microsoft Teams from `messaging.rs`.
-/
import TinyConnectors.Scope

/-- The curated action catalog for the `shopify` toolkit (`business.rs`). -/
def SHOPIFY_CURATED : List CuratedTool :=
  [⟨"SHOPIFY_BULK_QUERY_OPERATION", .read⟩, ⟨"SHOPIFY_COUNT_PRODUCTS", .read⟩,
    ⟨"SHOPIFY_COUNT_ORDERS", .read⟩, ⟨"SHOPIFY_COUNT_FULFILLMENTS", .read⟩,
    ⟨"SHOPIFY_COUNT_CUSTOMERS", .read⟩, ⟨"SHOPIFY_CREATE_ORDER", .write⟩,
    ⟨"SHOPIFY_CREATE_PRODUCT", .write⟩, ⟨"SHOPIFY_CREATE_DRAFT_ORDER", .write⟩,
    ⟨"SHOPIFY_CREATE_FULFILLMENT", .write⟩, ⟨"SHOPIFY_CREATE_CUSTOMER", .write⟩,
    ⟨"SHOPIFY_CREATE_PRICE_RULE", .write⟩, ⟨"SHOPIFY_ADJUST_INVENTORY_LEVEL", .write⟩,
    ⟨"SHOPIFY_CREATE_DISCOUNT_CODE", .write⟩, ⟨"SHOPIFY_UPDATE_PRODUCT", .write⟩,
    ⟨"SHOPIFY_CREATE_CUSTOM_COLLECTION", .write⟩, ⟨"SHOPIFY_CANCEL_ORDER", .admin⟩,
    ⟨"SHOPIFY_CANCEL_FULFILLMENT", .admin⟩, ⟨"SHOPIFY_DELETE_PRODUCT", .admin⟩,
    ⟨"SHOPIFY_BULK_DELETE_CUSTOMER_ADDRESSES", .admin⟩,
    ⟨"SHOPIFY_BULK_DELETE_METAFIELDS", .admin⟩]

/-- The curated action catalog for the `stripe` toolkit (`business.rs`). -/
def STRIPE_CURATED : List CuratedTool :=
  [⟨"STRIPE_GET_PAYMENT_INTENT", .read⟩, ⟨"STRIPE_LIST_INVOICES", .read⟩,
    ⟨"STRIPE_GET_CUSTOMER", .read⟩, ⟨"STRIPE_LIST_CHARGES", .read⟩,
    ⟨"STRIPE_GET_SUBSCRIPTION", .read⟩, ⟨"STRIPE_CREATE_PAYMENT_INTENT", .write⟩,
    ⟨"STRIPE_CREATE_INVOICE", .write⟩, ⟨"STRIPE_CREATE_CUSTOMER", .write⟩,
    ⟨"STRIPE_CREATE_CUSTOMER_SUBSCRIPTION", .write⟩, ⟨"STRIPE_CREATE_CHECKOUT_SESSION", .write⟩,
    ⟨"STRIPE_CONFIRM_PAYMENT_INTENT", .write⟩, ⟨"STRIPE_CAPTURE_PAYMENT_INTENT", .write⟩,
    ⟨"STRIPE_ATTACH_PAYMENT_METHOD", .write⟩, ⟨"STRIPE_CANCEL_SUBSCRIPTION", .admin⟩,
    ⟨"STRIPE_CANCEL_PAYMENT_INTENT", .admin⟩, ⟨"STRIPE_CREATE_CHARGE_REFUND", .admin⟩,
    ⟨"STRIPE_CLOSE_DISPUTE", .admin⟩, ⟨"STRIPE_CANCEL_SETUP_INTENT", .admin⟩,
    ⟨"STRIPE_ARCHIVE_BILLING_ALERT", .admin⟩]

/-- The curated action catalog for the `hubspot` toolkit (`business.rs`). -/
def HUBSPOT_CURATED : List CuratedTool :=
  [⟨"HUBSPOT_GET_CONTACTS", .read⟩, ⟨"HUBSPOT_SEARCH_CONTACTS_BY_CRITERIA", .read⟩,
    ⟨"HUBSPOT_LIST_CONTACTS_PAGE", .read⟩, ⟨"HUBSPOT_GET_COMPANIES", .read⟩,
    ⟨"HUBSPOT_GET_DEALS", .read⟩, ⟨"HUBSPOT_GET_CRM_OBJECT_BY_ID", .read⟩,
    ⟨"HUBSPOT_BATCH_READ_COMPANIES_BY_PROPERTIES", .read⟩, ⟨"HUBSPOT_CREATE_CONTACT", .write⟩,
    ⟨"HUBSPOT_CREATE_COMPANY", .write⟩, ⟨"HUBSPOT_CREATE_DEAL", .write⟩,
    ⟨"HUBSPOT_CREATE_CONTACTS", .write⟩, ⟨"HUBSPOT_UPDATE_CONTACT", .write⟩,
    ⟨"HUBSPOT_UPDATE_COMPANY", .write⟩, ⟨"HUBSPOT_CREATE_OBJECT_ASSOCIATION", .write⟩,
    ⟨"HUBSPOT_CREATE_A_NEW_MARKETING_EMAIL", .write⟩, ⟨"HUBSPOT_CREATE_BATCH_OF_OBJECTS", .write⟩,
    ⟨"HUBSPOT_BATCH_UPDATE_QUOTES", .write⟩, ⟨"HUBSPOT_ARCHIVE_CONTACT", .admin⟩,
    ⟨"HUBSPOT_ARCHIVE_COMPANY", .admin⟩, ⟨"HUBSPOT_ARCHIVE_DEAL", .admin⟩,
    ⟨"HUBSPOT_ARCHIVE_CONTACTS", .admin⟩, ⟨"HUBSPOT_ARCHIVE_COMPANIES", .admin⟩,
    ⟨"HUBSPOT_ARCHIVE_DEALS", .admin⟩, ⟨"HUBSPOT_ARCHIVE_CRM_OBJECT_BY_ID", .admin⟩,
    ⟨"HUBSPOT_ARCHIVE_PROPERTY_BY_OBJECT_TYPE_AND_NAME", .admin⟩]

/-- The curated action catalog for the `salesforce` toolkit (`business.rs`). -/
def SALESFORCE_CURATED : List CuratedTool :=
  [⟨"SALESFORCE_RUN_SOQL_QUERY", .read⟩, ⟨"SALESFORCE_EXECUTE_SOSL_SEARCH", .read⟩,
    ⟨"SALESFORCE_GET_ACCOUNT", .read⟩, ⟨"SALESFORCE_GET_CAMPAIGN", .read⟩,
    ⟨"SALESFORCE_GET_ALL_FIELDS_FOR_OBJECT", .read⟩, ⟨"SALESFORCE_GET_ALL_CUSTOM_OBJECTS", .read⟩,
    ⟨"SALESFORCE_CREATE_ACCOUNT", .write⟩, ⟨"SALESFORCE_CREATE_CONTACT", .write⟩,
    ⟨"SALESFORCE_CREATE_LEAD", .write⟩, ⟨"SALESFORCE_CREATE_OPPORTUNITY", .write⟩,
    ⟨"SALESFORCE_CREATE_CAMPAIGN", .write⟩, ⟨"SALESFORCE_CREATE_TASK", .write⟩,
    ⟨"SALESFORCE_UPDATE_ACCOUNT", .write⟩, ⟨"SALESFORCE_UPDATE_CONTACT", .write⟩,
    ⟨"SALESFORCE_UPDATE_OPPORTUNITY", .write⟩, ⟨"SALESFORCE_ADD_OPPORTUNITY_LINE_ITEM", .write⟩,
    ⟨"SALESFORCE_ADD_CONTACT_TO_CAMPAIGN", .write⟩, ⟨"SALESFORCE_ADD_LEAD_TO_CAMPAIGN", .write⟩,
    ⟨"SALESFORCE_ASSOCIATE_CONTACT_TO_ACCOUNT", .write⟩,
    ⟨"SALESFORCE_CLONE_OPPORTUNITY_WITH_PRODUCTS", .write⟩, ⟨"SALESFORCE_DELETE_ACCOUNT", .admin⟩,
    ⟨"SALESFORCE_DELETE_CONTACT", .admin⟩, ⟨"SALESFORCE_DELETE_LEAD", .admin⟩,
    ⟨"SALESFORCE_DELETE_OPPORTUNITY", .admin⟩, ⟨"SALESFORCE_DELETE_CAMPAIGN", .admin⟩,
    ⟨"SALESFORCE_DELETE_SOBJECT", .admin⟩, ⟨"SALESFORCE_DELETE_SOBJECT_COLLECTIONS", .admin⟩,
    ⟨"SALESFORCE_CREATE_CUSTOM_FIELD", .admin⟩]

/-- The curated action catalog for the `airtable` toolkit (`business.rs`). -/
def AIRTABLE_CURATED : List CuratedTool :=
  [⟨"AIRTABLE_LIST_RECORDS", .read⟩, ⟨"AIRTABLE_GET_RECORD", .read⟩,
    ⟨"AIRTABLE_GET_BASE_SCHEMA", .read⟩, ⟨"AIRTABLE_LIST_BASES", .read⟩,
    ⟨"AIRTABLE_LIST_COMMENTS", .read⟩, ⟨"AIRTABLE_CREATE_RECORDS", .write⟩,
    ⟨"AIRTABLE_UPDATE_RECORD", .write⟩, ⟨"AIRTABLE_UPDATE_MULTIPLE_RECORDS", .write⟩,
    ⟨"AIRTABLE_CREATE_FIELD", .write⟩, ⟨"AIRTABLE_CREATE_TABLE", .write⟩,
    ⟨"AIRTABLE_CREATE_COMMENT", .write⟩, ⟨"AIRTABLE_UPLOAD_ATTACHMENT", .write⟩,
    ⟨"AIRTABLE_UPDATE_FIELD", .write⟩, ⟨"AIRTABLE_UPDATE_TABLE", .write⟩,
    ⟨"AIRTABLE_DELETE_RECORD", .admin⟩, ⟨"AIRTABLE_DELETE_MULTIPLE_RECORDS", .admin⟩,
    ⟨"AIRTABLE_DELETE_COMMENT", .admin⟩, ⟨"AIRTABLE_CREATE_BASE", .admin⟩]

/-- The curated action catalog for the `figma` toolkit (`business.rs`). -/
def FIGMA_CURATED : List CuratedTool :=
  [⟨"FIGMA_GET_FILE_JSON", .read⟩, ⟨"FIGMA_GET_FILE_NODES", .read⟩,
    ⟨"FIGMA_GET_COMMENTS_IN_A_FILE", .read⟩, ⟨"FIGMA_GET_CURRENT_USER", .read⟩,
    ⟨"FIGMA_DISCOVER_FIGMA_RESOURCES", .read⟩, ⟨"FIGMA_GET_FILE_COMPONENTS", .read⟩,
    ⟨"FIGMA_GET_LOCAL_VARIABLES", .read⟩, ⟨"FIGMA_EXTRACT_DESIGN_TOKENS", .read⟩,
    ⟨"FIGMA_ADD_A_COMMENT_TO_A_FILE", .write⟩, ⟨"FIGMA_CREATE_DEV_RESOURCES", .write⟩,
    ⟨"FIGMA_CREATE_MODIFY_DELETE_VARIABLES", .write⟩, ⟨"FIGMA_DELETE_A_COMMENT", .admin⟩,
    ⟨"FIGMA_DELETE_A_WEBHOOK", .admin⟩, ⟨"FIGMA_DELETE_DEV_RESOURCE", .admin⟩]

/-- The curated action catalog for the `googlecalendar` toolkit (`google.rs`). -/
def GOOGLECALENDAR_CURATED : List CuratedTool :=
  [⟨"GOOGLECALENDAR_EVENTS_LIST", .read⟩, ⟨"GOOGLECALENDAR_FIND_EVENT", .read⟩,
    ⟨"GOOGLECALENDAR_LIST_CALENDARS", .read⟩, ⟨"GOOGLECALENDAR_EVENTS_GET", .read⟩,
    ⟨"GOOGLECALENDAR_FIND_FREE_SLOTS", .read⟩, ⟨"GOOGLECALENDAR_GET_CALENDAR", .read⟩,
    ⟨"GOOGLECALENDAR_EVENTS_LIST_ALL_CALENDARS", .read⟩, ⟨"GOOGLECALENDAR_CREATE_EVENT", .write⟩,
    ⟨"GOOGLECALENDAR_UPDATE_EVENT", .write⟩, ⟨"GOOGLECALENDAR_PATCH_EVENT", .write⟩,
    ⟨"GOOGLECALENDAR_QUICK_ADD", .write⟩, ⟨"GOOGLECALENDAR_EVENTS_MOVE", .write⟩,
    ⟨"GOOGLECALENDAR_REMOVE_ATTENDEE", .write⟩, ⟨"GOOGLECALENDAR_EVENTS_IMPORT", .write⟩,
    ⟨"GOOGLECALENDAR_DELETE_EVENT", .admin⟩, ⟨"GOOGLECALENDAR_CLEAR_CALENDAR", .admin⟩,
    ⟨"GOOGLECALENDAR_CALENDARS_DELETE", .admin⟩, ⟨"GOOGLECALENDAR_DUPLICATE_CALENDAR", .admin⟩,
    ⟨"GOOGLECALENDAR_PATCH_CALENDAR", .admin⟩, ⟨"GOOGLECALENDAR_ACL_INSERT", .admin⟩,
    ⟨"GOOGLECALENDAR_ACL_DELETE", .admin⟩]

/-- The curated action catalog for the `googledrive` toolkit (`google.rs`). -/
def GOOGLEDRIVE_CURATED : List CuratedTool :=
  [⟨"GOOGLEDRIVE_FIND_FILE", .read⟩, ⟨"GOOGLEDRIVE_LIST_FILES", .read⟩,
    ⟨"GOOGLEDRIVE_GET_FILE_METADATA", .read⟩, ⟨"GOOGLEDRIVE_DOWNLOAD_FILE", .read⟩,
    ⟨"GOOGLEDRIVE_LIST_PERMISSIONS", .read⟩, ⟨"GOOGLEDRIVE_FIND_FOLDER", .read⟩,
    ⟨"GOOGLEDRIVE_GET_ABOUT", .read⟩, ⟨"GOOGLEDRIVE_CREATE_FILE", .write⟩,
    ⟨"GOOGLEDRIVE_CREATE_FOLDER", .write⟩, ⟨"GOOGLEDRIVE_UPLOAD_FILE", .write⟩,
    ⟨"GOOGLEDRIVE_CREATE_FILE_FROM_TEXT", .write⟩, ⟨"GOOGLEDRIVE_COPY_FILE_ADVANCED", .write⟩,
    ⟨"GOOGLEDRIVE_MOVE_FILE", .write⟩, ⟨"GOOGLEDRIVE_EDIT_FILE", .write⟩,
    ⟨"GOOGLEDRIVE_RENAME_FILE", .write⟩, ⟨"GOOGLEDRIVE_CREATE_PERMISSION", .admin⟩,
    ⟨"GOOGLEDRIVE_DELETE_PERMISSION", .admin⟩, ⟨"GOOGLEDRIVE_UPDATE_PERMISSION", .admin⟩,
    ⟨"GOOGLEDRIVE_DELETE_FILE", .admin⟩,
    ⟨"GOOGLEDRIVE_GOOGLE_DRIVE_DELETE_FOLDER_OR_FILE_ACTION", .admin⟩,
    ⟨"GOOGLEDRIVE_EMPTY_TRASH", .admin⟩]

/-- The curated action catalog for the `googledocs` toolkit (`google.rs`). -/
def GOOGLEDOCS_CURATED : List CuratedTool :=
  [⟨"GOOGLEDOCS_GET_DOCUMENT_BY_ID", .read⟩, ⟨"GOOGLEDOCS_GET_DOCUMENT_PLAINTEXT", .read⟩,
    ⟨"GOOGLEDOCS_SEARCH_DOCUMENTS", .read⟩, ⟨"GOOGLEDOCS_CREATE_DOCUMENT", .write⟩,
    ⟨"GOOGLEDOCS_CREATE_DOCUMENT_MARKDOWN", .write⟩, ⟨"GOOGLEDOCS_INSERT_TEXT_ACTION", .write⟩,
    ⟨"GOOGLEDOCS_INSERT_TABLE_ACTION", .write⟩, ⟨"GOOGLEDOCS_INSERT_INLINE_IMAGE", .write⟩,
    ⟨"GOOGLEDOCS_UPDATE_EXISTING_DOCUMENT", .write⟩,
    ⟨"GOOGLEDOCS_UPDATE_DOCUMENT_MARKDOWN", .write⟩,
    ⟨"GOOGLEDOCS_UPDATE_DOCUMENT_SECTION_MARKDOWN", .write⟩,
    ⟨"GOOGLEDOCS_REPLACE_ALL_TEXT", .write⟩, ⟨"GOOGLEDOCS_COPY_DOCUMENT", .write⟩,
    ⟨"GOOGLEDOCS_CREATE_HEADER", .write⟩, ⟨"GOOGLEDOCS_CREATE_FOOTER", .write⟩,
    ⟨"GOOGLEDOCS_DELETE_CONTENT_RANGE", .admin⟩, ⟨"GOOGLEDOCS_DELETE_HEADER", .admin⟩,
    ⟨"GOOGLEDOCS_DELETE_FOOTER", .admin⟩, ⟨"GOOGLEDOCS_DELETE_NAMED_RANGE", .admin⟩,
    ⟨"GOOGLEDOCS_DELETE_TABLE_ROW", .admin⟩, ⟨"GOOGLEDOCS_DELETE_TABLE_COLUMN", .admin⟩]

/-- The curated action catalog for the `googlesheets` toolkit (`google.rs`). -/
def GOOGLESHEETS_CURATED : List CuratedTool :=
  [⟨"GOOGLESHEETS_BATCH_GET", .read⟩, ⟨"GOOGLESHEETS_VALUES_GET", .read⟩,
    ⟨"GOOGLESHEETS_LOOKUP_SPREADSHEET_ROW", .read⟩, ⟨"GOOGLESHEETS_GET_SPREADSHEET_INFO", .read⟩,
    ⟨"GOOGLESHEETS_GET_SHEET_NAMES", .read⟩, ⟨"GOOGLESHEETS_SEARCH_SPREADSHEETS", .read⟩,
    ⟨"GOOGLESHEETS_VALUES_UPDATE", .write⟩, ⟨"GOOGLESHEETS_UPDATE_VALUES_BATCH", .write⟩,
    ⟨"GOOGLESHEETS_SPREADSHEETS_VALUES_APPEND", .write⟩, ⟨"GOOGLESHEETS_UPSERT_ROWS", .write⟩,
    ⟨"GOOGLESHEETS_CREATE_GOOGLE_SHEET1", .write⟩, ⟨"GOOGLESHEETS_ADD_SHEET", .write⟩,
    ⟨"GOOGLESHEETS_CREATE_SPREADSHEET_ROW", .write⟩,
    ⟨"GOOGLESHEETS_CREATE_SPREADSHEET_COLUMN", .write⟩, ⟨"GOOGLESHEETS_FIND_REPLACE", .write⟩,
    ⟨"GOOGLESHEETS_FORMAT_CELL", .write⟩, ⟨"GOOGLESHEETS_SET_DATA_VALIDATION_RULE", .write⟩,
    ⟨"GOOGLESHEETS_SPREADSHEETS_VALUES_BATCH_CLEAR", .admin⟩,
    ⟨"GOOGLESHEETS_DELETE_SHEET", .admin⟩, ⟨"GOOGLESHEETS_DELETE_DIMENSION", .admin⟩,
    ⟨"GOOGLESHEETS_UPDATE_SHEET_PROPERTIES", .admin⟩,
    ⟨"GOOGLESHEETS_UPDATE_SPREADSHEET_PROPERTIES", .admin⟩]

/-- The curated action catalog for the `one_drive` toolkit (`microsoft.rs`). -/
def ONE_DRIVE_CURATED : List CuratedTool :=
  [⟨"ONE_DRIVE_GET_FILE", .read⟩, ⟨"ONE_DRIVE_GET_FILE_METADATA", .read⟩,
    ⟨"ONE_DRIVE_LIST_FILES", .read⟩, ⟨"ONE_DRIVE_LIST_CHILDREN", .read⟩,
    ⟨"ONE_DRIVE_SEARCH_FILES", .read⟩, ⟨"ONE_DRIVE_DOWNLOAD_FILE", .read⟩,
    ⟨"ONE_DRIVE_GET_DRIVE", .read⟩, ⟨"ONE_DRIVE_UPLOAD_FILE", .write⟩,
    ⟨"ONE_DRIVE_CREATE_FOLDER", .write⟩, ⟨"ONE_DRIVE_COPY_FILE", .write⟩,
    ⟨"ONE_DRIVE_MOVE_FILE", .write⟩, ⟨"ONE_DRIVE_UPDATE_FILE", .write⟩,
    ⟨"ONE_DRIVE_CREATE_SHARE_LINK", .write⟩, ⟨"ONE_DRIVE_DELETE_FILE", .admin⟩,
    ⟨"ONE_DRIVE_DELETE_FOLDER", .admin⟩, ⟨"ONE_DRIVE_RESTORE_FILE", .admin⟩]

/-- The curated action catalog for the `excel` toolkit (`microsoft.rs`). -/
def EXCEL_CURATED : List CuratedTool :=
  [⟨"EXCEL_GET_WORKBOOK", .read⟩, ⟨"EXCEL_LIST_WORKSHEETS", .read⟩,
    ⟨"EXCEL_GET_WORKSHEET", .read⟩, ⟨"EXCEL_GET_RANGE", .read⟩, ⟨"EXCEL_GET_USED_RANGE", .read⟩,
    ⟨"EXCEL_LIST_TABLES", .read⟩, ⟨"EXCEL_GET_TABLE_ROWS", .read⟩,
    ⟨"EXCEL_CREATE_WORKSHEET", .write⟩, ⟨"EXCEL_UPDATE_RANGE", .write⟩,
    ⟨"EXCEL_APPEND_ROWS", .write⟩, ⟨"EXCEL_INSERT_TABLE_ROW", .write⟩,
    ⟨"EXCEL_UPDATE_TABLE_ROW", .write⟩, ⟨"EXCEL_CREATE_TABLE", .write⟩,
    ⟨"EXCEL_FORMAT_RANGE", .write⟩, ⟨"EXCEL_DELETE_WORKSHEET", .admin⟩,
    ⟨"EXCEL_DELETE_TABLE", .admin⟩, ⟨"EXCEL_DELETE_TABLE_ROW", .admin⟩,
    ⟨"EXCEL_CLEAR_RANGE", .admin⟩]

/-- The curated action catalog for the `outlook` toolkit (`productivity.rs`). -/
def OUTLOOK_CURATED : List CuratedTool :=
  [⟨"OUTLOOK_GET_MESSAGE", .read⟩, ⟨"OUTLOOK_LIST_MESSAGES", .read⟩,
    ⟨"OUTLOOK_SEARCH_MESSAGES", .read⟩, ⟨"OUTLOOK_LIST_CALENDARS", .read⟩,
    ⟨"OUTLOOK_LIST_CALENDAR_EVENTS", .read⟩, ⟨"OUTLOOK_GET_CALENDAR_EVENT", .read⟩,
    ⟨"OUTLOOK_LIST_CONTACTS", .read⟩, ⟨"OUTLOOK_LIST_MAIL_FOLDERS", .read⟩,
    ⟨"OUTLOOK_SEND_EMAIL", .write⟩, ⟨"OUTLOOK_CREATE_DRAFT", .write⟩,
    ⟨"OUTLOOK_SEND_DRAFT", .write⟩, ⟨"OUTLOOK_CREATE_DRAFT_REPLY", .write⟩,
    ⟨"OUTLOOK_CREATE_ME_FORWARD_DRAFT", .write⟩, ⟨"OUTLOOK_CALENDAR_CREATE_EVENT", .write⟩,
    ⟨"OUTLOOK_CREATE_CONTACT", .write⟩, ⟨"OUTLOOK_CREATE_MAIL_FOLDER", .write⟩,
    ⟨"OUTLOOK_DELETE_MESSAGE", .admin⟩, ⟨"OUTLOOK_BATCH_MOVE_MESSAGES", .admin⟩,
    ⟨"OUTLOOK_BATCH_UPDATE_MESSAGES", .admin⟩, ⟨"OUTLOOK_ACCEPT_EVENT", .admin⟩,
    ⟨"OUTLOOK_CANCEL_EVENT", .admin⟩, ⟨"OUTLOOK_CREATE_ME_CALENDAR_PERMISSION", .admin⟩,
    ⟨"OUTLOOK_CREATE_EMAIL_RULE", .admin⟩]

/-- The curated action catalog for the `jira` toolkit (`productivity.rs`). -/
def JIRA_CURATED : List CuratedTool :=
  [⟨"JIRA_GET_ISSUE", .read⟩, ⟨"JIRA_GET_ALL_PROJECTS", .read⟩, ⟨"JIRA_FETCH_BULK_ISSUES", .read⟩,
    ⟨"JIRA_GET_ISSUE_TYPES", .read⟩, ⟨"JIRA_GET_PROJECT_ROLES", .read⟩,
    ⟨"JIRA_FIND_USERS2", .read⟩, ⟨"JIRA_GET_FIELDS", .read⟩,
    ⟨"JIRA_GET_ISSUE_EDIT_METADATA", .read⟩, ⟨"JIRA_GET_PROJECT_VERSIONS", .read⟩,
    ⟨"JIRA_CREATE_ISSUE", .write⟩, ⟨"JIRA_BULK_CREATE_ISSUE", .write⟩,
    ⟨"JIRA_EDIT_ISSUE", .write⟩, ⟨"JIRA_ADD_COMMENT", .write⟩, ⟨"JIRA_ASSIGN_ISSUE", .write⟩,
    ⟨"JIRA_ADD_ATTACHMENT", .write⟩, ⟨"JIRA_CREATE_ISSUE_LINK", .write⟩,
    ⟨"JIRA_ADD_WORKLOG", .write⟩, ⟨"JIRA_TRANSITION_ISSUE", .write⟩,
    ⟨"JIRA_DELETE_ISSUE", .admin⟩, ⟨"JIRA_DELETE_COMMENT", .admin⟩,
    ⟨"JIRA_DELETE_VERSION", .admin⟩, ⟨"JIRA_DELETE_WORKLOG", .admin⟩,
    ⟨"JIRA_CREATE_PROJECT", .admin⟩, ⟨"JIRA_ADD_USERS_TO_PROJECT_ROLE", .admin⟩]

/-- The curated action catalog for the `trello` toolkit (`productivity.rs`). -/
def TRELLO_CURATED : List CuratedTool :=
  [⟨"TRELLO_GET_BOARDS_BY_ID_BOARD", .read⟩, ⟨"TRELLO_GET_ACTIONS_BY_ID_ACTION", .read⟩,
    ⟨"TRELLO_GET_BATCH", .read⟩, ⟨"TRELLO_GET_BOARDS_ACTIONS_BY_ID_BOARD", .read⟩,
    ⟨"TRELLO_GET_MEMBERS_BOARDS_BY_ID_MEMBER", .read⟩, ⟨"TRELLO_ADD_CARDS", .write⟩,
    ⟨"TRELLO_ADD_BOARDS", .write⟩, ⟨"TRELLO_ADD_LISTS", .write⟩,
    ⟨"TRELLO_ADD_CARDS_ACTIONS_COMMENTS_BY_ID_CARD", .write⟩,
    ⟨"TRELLO_ADD_MEMBER_TO_CARD", .write⟩, ⟨"TRELLO_CREATE_CARD_LABEL", .write⟩,
    ⟨"TRELLO_ADD_CARDS_ATTACHMENTS_BY_ID_CARD", .write⟩,
    ⟨"TRELLO_ADD_CARDS_CHECKLISTS_BY_ID_CARD", .write⟩, ⟨"TRELLO_CREATE_WEBHOOK", .write⟩,
    ⟨"TRELLO_DELETE_CARDS_BY_ID_CARD", .admin⟩, ⟨"TRELLO_DELETE_BOARD", .admin⟩,
    ⟨"TRELLO_DELETE_CHECKLISTS_BY_ID_CHECKLIST", .admin⟩,
    ⟨"TRELLO_ARCHIVE_ALL_LIST_CARDS", .admin⟩, ⟨"TRELLO_DELETE_CARD_COMMENT", .admin⟩,
    ⟨"TRELLO_DELETE_LABELS_BY_ID_LABEL", .admin⟩,
    ⟨"TRELLO_DELETE_ORGANIZATIONS_BY_ID_ORG", .admin⟩,
    ⟨"TRELLO_DELETE_WEBHOOKS_BY_ID_WEBHOOK", .admin⟩]

/-- The curated action catalog for the `asana` toolkit (`productivity.rs`). -/
def ASANA_CURATED : List CuratedTool :=
  [⟨"ASANA_GET_A_TASK", .read⟩, ⟨"ASANA_GET_A_PROJECT", .read⟩,
    ⟨"ASANA_GET_MULTIPLE_TASKS", .read⟩, ⟨"ASANA_GET_MULTIPLE_PROJECTS", .read⟩,
    ⟨"ASANA_GET_CURRENT_USER", .read⟩, ⟨"ASANA_GET_MULTIPLE_WORKSPACES", .read⟩,
    ⟨"ASANA_GET_PORTFOLIO", .read⟩, ⟨"ASANA_GET_GOALS", .read⟩,
    ⟨"ASANA_GET_CUSTOM_FIELDS_FOR_WORKSPACE", .read⟩, ⟨"ASANA_CREATE_A_TASK", .write⟩,
    ⟨"ASANA_CREATE_A_PROJECT", .write⟩, ⟨"ASANA_CREATE_SUBTASK", .write⟩,
    ⟨"ASANA_CREATE_TASK_COMMENT", .write⟩, ⟨"ASANA_UPDATE_A_TASK", .write⟩,
    ⟨"ASANA_ADD_FOLLOWERS_TO_TASK", .write⟩, ⟨"ASANA_ADD_TAG_TO_TASK", .write⟩,
    ⟨"ASANA_ADD_PROJECT_FOR_TASK", .write⟩, ⟨"ASANA_ADD_TASK_DEPENDENCIES", .write⟩,
    ⟨"ASANA_CREATE_ATTACHMENT_FOR_TASK", .write⟩, ⟨"ASANA_DELETE_TASK", .admin⟩,
    ⟨"ASANA_DELETE_PROJECT", .admin⟩, ⟨"ASANA_DELETE_SECTION", .admin⟩,
    ⟨"ASANA_DELETE_TAG", .admin⟩, ⟨"ASANA_DELETE_CUSTOM_FIELD", .admin⟩,
    ⟨"ASANA_DELETE_MEMBERSHIP", .admin⟩]

/-- The curated action catalog for the `dropbox` toolkit (`productivity.rs`). -/
def DROPBOX_CURATED : List CuratedTool :=
  [⟨"DROPBOX_GET_METADATA", .read⟩, ⟨"DROPBOX_FILES_SEARCH", .read⟩,
    ⟨"DROPBOX_LIST_FILE_MEMBERS", .read⟩, ⟨"DROPBOX_GET_SHARED_LINK_METADATA", .read⟩,
    ⟨"DROPBOX_GET_ABOUT_ME", .read⟩, ⟨"DROPBOX_GET_SPACE_USAGE", .read⟩,
    ⟨"DROPBOX_ALPHA_UPLOAD_FILE", .write⟩, ⟨"DROPBOX_CREATE_FOLDER", .write⟩,
    ⟨"DROPBOX_COPY_FILE_OR_FOLDER", .write⟩, ⟨"DROPBOX_CREATE_SHARED_LINK", .write⟩,
    ⟨"DROPBOX_ADD_FILE_MEMBER", .write⟩, ⟨"DROPBOX_DELETE_FILE", .admin⟩,
    ⟨"DROPBOX_DELETE_BATCH", .admin⟩, ⟨"DROPBOX_ADD_TEAM_MEMBERS", .admin⟩,
    ⟨"DROPBOX_CREATE_TEAM_FOLDER", .admin⟩, ⟨"DROPBOX_ARCHIVE_TEAM_FOLDER", .admin⟩]

/-- The curated action catalog for the `todoist` toolkit (`productivity.rs`). -/
def TODOIST_CURATED : List CuratedTool :=
  [⟨"TODOIST_GET_TASK", .read⟩, ⟨"TODOIST_GET_ALL_TASKS", .read⟩,
    ⟨"TODOIST_LIST_COMPLETED_TASKS", .read⟩, ⟨"TODOIST_GET_PROJECTS", .read⟩,
    ⟨"TODOIST_GET_PROJECT", .read⟩, ⟨"TODOIST_GET_SECTIONS", .read⟩,
    ⟨"TODOIST_GET_LABELS", .read⟩, ⟨"TODOIST_GET_COMMENTS", .read⟩,
    ⟨"TODOIST_CREATE_TASK", .write⟩, ⟨"TODOIST_UPDATE_TASK", .write⟩,
    ⟨"TODOIST_CLOSE_TASK", .write⟩, ⟨"TODOIST_REOPEN_TASK", .write⟩,
    ⟨"TODOIST_CREATE_PROJECT", .write⟩, ⟨"TODOIST_UPDATE_PROJECT", .write⟩,
    ⟨"TODOIST_CREATE_SECTION", .write⟩, ⟨"TODOIST_CREATE_LABEL", .write⟩,
    ⟨"TODOIST_CREATE_COMMENT", .write⟩, ⟨"TODOIST_DELETE_TASK", .admin⟩,
    ⟨"TODOIST_DELETE_PROJECT", .admin⟩, ⟨"TODOIST_DELETE_SECTION", .admin⟩,
    ⟨"TODOIST_DELETE_LABEL", .admin⟩, ⟨"TODOIST_DELETE_COMMENT", .admin⟩]

/-- The curated action catalog for the `microsoft_teams` toolkit (`messaging.rs`). -/
def MICROSOFT_TEAMS_CURATED : List CuratedTool :=
  [⟨"MICROSOFT_TEAMS_GET_CHAT", .read⟩, ⟨"MICROSOFT_TEAMS_GET_CHANNEL", .read⟩,
    ⟨"MICROSOFT_TEAMS_GET_TEAM_FROM_GROUP", .read⟩,
    ⟨"MICROSOFT_TEAMS_CHATS_GET_ALL_CHATS", .read⟩, ⟨"MICROSOFT_TEAMS_GET_PRESENCE", .read⟩,
    ⟨"MICROSOFT_TEAMS_GET_ONLINE_MEETING", .read⟩, ⟨"MICROSOFT_TEAMS_GET_SCHEDULE", .read⟩,
    ⟨"MICROSOFT_TEAMS_CREATE_CHANNEL", .write⟩, ⟨"MICROSOFT_TEAMS_CREATE_TEAM", .write⟩,
    ⟨"MICROSOFT_TEAMS_CREATE_MEETING", .write⟩, ⟨"MICROSOFT_TEAMS_ADD_TEAM_MEMBER", .write⟩,
    ⟨"MICROSOFT_TEAMS_ADD_CHAT_MEMBER", .write⟩, ⟨"MICROSOFT_TEAMS_CREATE_SHIFT", .write⟩,
    ⟨"MICROSOFT_TEAMS_CREATE_TIME_OFF_REQUEST", .write⟩, ⟨"MICROSOFT_TEAMS_DELETE_TEAM", .admin⟩,
    ⟨"MICROSOFT_TEAMS_DELETE_CHANNEL", .admin⟩, ⟨"MICROSOFT_TEAMS_ARCHIVE_TEAM", .admin⟩,
    ⟨"MICROSOFT_TEAMS_ARCHIVE_CHANNEL", .admin⟩, ⟨"MICROSOFT_TEAMS_DELETE_TAB", .admin⟩,
    ⟨"MICROSOFT_TEAMS_DELETE_TIME_OFF", .admin⟩]
